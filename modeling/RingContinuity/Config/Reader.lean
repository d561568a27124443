import RingContinuity.Config.Field
import RingContinuity.Json.Skip
import RingContinuity.Json.Value
import RingContinuity.MacAddress.Reader

/-!
# Configuration texts

A configuration is written as a JSON object whose members are the fields, in any order. Fields that
are left out keep their defaults and members with other names are passed over. A JSON list of the
values of the first few fields, in their order, is read as well.
-/

namespace RingContinuity.Config

open Json

def macValue : Reader (Option MacAddress) := nullable (refine textValue MacAddress.ofText)

theorem forward_macValue : Forward macValue := forward_nullable (forward_refine forward_textValue)

namespace Field

def read (f : Field) (c : Config) : Reader Config :=
  match f with
  | interface => (fun v => { c with interface := v }) <$> textValue
  | localMac => (fun v => { c with localMac := v }) <$> macValue
  | remoteMac => (fun v => { c with remoteMac := v }) <$> macValue
  | vlan => (fun n => { c with vlan := UInt16.ofNat n }) <$> naturalValue UInt16.size
  | level => (fun n => { c with level := UInt8.ofNat n }) <$> naturalValue UInt8.size
  | ringId => (fun n => { c with ringId := UInt8.ofNat n }) <$> naturalValue UInt8.size
  | mepId =>
    (fun n => { c with mepId := n.map UInt16.ofNat }) <$> nullable (naturalValue UInt16.size)
  | interval =>
    (fun i => { c with interval := i }) <$> refine (naturalValue UInt64.size) CcmInterval.ofMillis
  | skips => (fun n => { c with skips := UInt32.ofNat n }) <$> naturalValue UInt32.size
  | domainName => (fun v => { c with domainName := v }) <$> textValue
  | associationName => (fun v => { c with associationName := v }) <$> textValue
  | verbose => (fun b => { c with verbose := b }) <$> boolValue

theorem forward_read (f : Field) (c : Config) : Forward (f.read c) := by
  cases f
  case interface | domainName | associationName => exact forward_map forward_textValue
  case localMac | remoteMac => exact forward_map forward_macValue
  case vlan | level | ringId | skips => exact forward_map (forward_naturalValue _)
  case mepId => exact forward_map (forward_nullable (forward_naturalValue _))
  case interval => exact forward_map (forward_refine (forward_naturalValue _))
  case verbose => exact forward_map forward_boolValue

end Field

/-- What was read of a configuration so far. -/
structure Draft where
  config : Config := {}
  given : List Field := []

def colon : Reader Unit := fun s => word [':'] (skipBlanks s)

theorem forward_colon : Forward colon := by
  intro s v r h
  exact Nat.le_trans (forward_word _ _ _ _ h) (length_skipBlanks_le s)

/-- Reads what follows the name of a member. A field that was given before is refused at its
name. -/
def member (d : Draft) (name : List Char) : Reader Draft :=
  match Field.ofName? (String.ofList name) with
  | none => do
    colon
    skipValue
    pure d
  | some f =>
    if f ∈ d.given then throw (.unsuitable none)
    else do
      colon
      let config ← f.read d.config
      pure { config, given := f :: d.given }

theorem forward_member (d : Draft) (name : List Char) : Forward (member d name) := by
  unfold member
  split
  · exact forward_bind forward_colon fun _ => forward_bind forward_skipValue fun _ =>
      forward_pure _
  · exact forward_ite (forward_throw _) <| forward_bind forward_colon fun _ =>
      forward_bind (Field.forward_read _ _) fun _ => forward_pure _

/-- Reads a member behind the opening quote of its name. -/
def namedMember (d : Draft) : Reader Draft := do
  let name ← (string : Reader (List Char))
  member d name

theorem forward_namedMember (d : Draft) : Forward (namedMember d) :=
  forward_bind forward_string fun _ => forward_member _ _

/-- Reads members behind the opening quote of the name of the first one, up to the end of the
object. -/
def members (d : Draft) (s : List Char) : Except Fault (Config × List Char) :=
  match _h : namedMember d s with
  | .error fault => .error fault
  | .ok (d, r) => match _hr : skipBlanks r with
    | [] => .error .truncated
    | c :: r =>
      if c = '\x7d' then .ok (d.config, r)
      else if c = ',' then match _hq : skipBlanks r with
        | [] => .error .truncated
        | q :: r => if q = '"' then members d r else .error .malformed
      else .error .malformed
termination_by s.length
decreasing_by
  have := forward_namedMember _ _ _ _ _h
  have := length_of_skipBlanks_eq_cons _hr
  have := length_of_skipBlanks_eq_cons _hq
  omega

/-- Reads an object behind its opening bracket. -/
def object : Reader Config := fun s =>
  match skipBlanks s with
  | [] => .error .truncated
  | c :: r =>
    if c = '\x7d' then .ok ({}, r)
    else if c = '"' then members {} r
    else .error .malformed

/-- Reads the values of fields that are left, up to the end of the list. -/
def elements (c : Config) : (fields : List Field) → (isFirst : Bool) → Reader Config
  | [], _, s => match skipBlanks s with
    | [] => .error .truncated
    | b :: r => if b = ']' then .ok (c, r) else .error .malformed
  | f :: fields, isFirst, s => match skipBlanks s with
    | [] => .error .truncated
    | b :: r =>
      if b = ']' then .ok (c, r)
      else if isFirst then next f fields (b :: r)
      else if b = ',' then
        match skipBlanks r with
        | [] => .error .truncated
        | b :: r => if b = ']' then .error .malformed else next f fields (b :: r)
      else .error .malformed
where
  /-- Reads the value of a field and then those of the others. -/
  next (f : Field) (fields : List Field) : Reader Config := do
    let c ← f.read c
    elements c fields false

def value : Reader Config := fun s =>
  match skipBlanks s with
  | [] => .error .truncated
  | b :: r =>
    if b = '\x7b' then object r
    else if b = '[' then elements {} Field.all true r
    else .error (mistyped (b :: r))

def ofText (s : String) : Except Fault Config := do
  let (c, r) ← value s.toList
  if skipBlanks r = [] then .ok c else .error .malformed

end RingContinuity.Config
