import RingContinuity.Config.Reader
import RingContinuity.Config.Writer
import RingContinuity.Proofs.AddressTexts
import RingContinuity.Proofs.JsonTexts
import Mathlib.Data.List.Perm.Basic

/-!
# Configurations written and read back

A configuration is read back from the object that it is written as. Fields may be left out, which
puts them at their defaults, and the others may come in any order; every address may be written in
any of its spellings.
-/

namespace RingContinuity

/-! ### Spellings of an address -/

namespace MacAddress

/-- Six octets divided by colons or by hyphens, or three pairs of them divided by dots. -/
inductive Form
  | colons | hyphens | dots
  deriving DecidableEq

/-- A form, and the case of the digits above nine. -/
structure Spelling where
  form : Form
  upperCase : Bool
  deriving DecidableEq

namespace Spelling

/-- Lower case and colons, as in `MacAddress.text`. -/
def usual : Spelling := ⟨.colons, false⟩

def digit (s : Spelling) (n : Nat) : Char :=
  if s.upperCase then (Numeral.hexDigit n).toUpper else Numeral.hexDigit n

def octet (s : Spelling) (b : UInt8) : List Char := [s.digit (b.toNat / 16), s.digit b.toNat]

def write (s : Spelling) (m : MacAddress) : List Char :=
  match s.form with
  | .colons => List.intercalate [':'] (m.octets.map s.octet)
  | .hyphens => List.intercalate ['-'] (m.octets.map s.octet)
  | .dots => List.intercalate ['.']
    [s.octet m.o0 ++ s.octet m.o1, s.octet m.o2 ++ s.octet m.o3, s.octet m.o4 ++ s.octet m.o5]

lemma usual_write (m : MacAddress) : usual.write m = m.text := rfl

lemma digit_value (s : Spelling) (n : Nat) :
    Numeral.IsHexDigit (s.digit n) ∧ Numeral.digitValue (s.digit n) = n % 16 := by
  have hall : ∀ u : Bool, ∀ k < 16, Numeral.IsHexDigit (digit ⟨.colons, u⟩ k) ∧
      Numeral.digitValue (digit ⟨.colons, u⟩ k) = k := by
    decide
  have hmod : s.digit n = digit ⟨.colons, s.upperCase⟩ (n % 16) := by
    unfold digit Numeral.hexDigit
    rw [Nat.mod_mod]
  rw [hmod]
  exact hall s.upperCase (n % 16) (Nat.mod_lt n (by decide))

lemma group_octet (s : Spelling) (b : UInt8) : Group 2 (s.octet b) b.toNat := by
  have hb : b.toNat < 256 := b.toNat_lt
  obtain ⟨hhi, hvhi⟩ := s.digit_value (b.toNat / 16)
  obtain ⟨hlo, hvlo⟩ := s.digit_value b.toNat
  refine ⟨by simp [octet, hhi, hlo], by simp [octet], ?_⟩
  simp only [octet, Numeral.hexValue, hvhi, hvlo, List.length_cons, List.length_nil]
  omega

lemma group_pair (s : Spelling) (a b : UInt8) :
    Group 4 (s.octet a ++ s.octet b) (256 * a.toNat + b.toNat) := by
  have ha : a.toNat < 256 := a.toNat_lt
  have hb : b.toNat < 256 := b.toNat_lt
  obtain ⟨h0, hv0⟩ := s.digit_value (a.toNat / 16)
  obtain ⟨h1, hv1⟩ := s.digit_value a.toNat
  obtain ⟨h2, hv2⟩ := s.digit_value (b.toNat / 16)
  obtain ⟨h3, hv3⟩ := s.digit_value b.toNat
  refine ⟨by simp [octet, h0, h1, h2, h3], by simp [octet], ?_⟩
  simp only [octet, Numeral.hexValue, hv0, hv1, hv2, hv3, List.length_cons, List.length_nil,
    List.cons_append, List.nil_append]
  omega

lemma written_write (s : Spelling) (m : MacAddress) : Written SignedGroup (s.write m) m := by
  have octets : List.Forall₂ (SignedGroup 2) (m.octets.map s.octet)
      (m.octets.map UInt8.toNat) := by
    rw [List.forall₂_map_left_iff, List.forall₂_map_right_iff, List.forall₂_same]
    exact fun b _ => .inl (s.group_octet b)
  unfold write
  cases s.form with
  | colons => exact .separated (.inl rfl) octets
  | hyphens => exact .separated (.inr rfl) octets
  | dots =>
    exact .dotted (.cons (.inl (s.group_pair _ _)) (.cons (.inl (s.group_pair _ _))
      (.cons (.inl (s.group_pair _ _)) .nil)))

/-- An address is read back from each of its spellings. -/
theorem ofText_write (s : Spelling) (m : MacAddress) :
    ofText (String.ofList (s.write m)) = .ok m := by
  unfold ofText
  rw [String.toList_ofList, read?_eq_some_iff.2 (s.written_write m)]

end Spelling
end MacAddress

namespace Config

open Json

/-! ### Fields -/

namespace Field

/-- The two configurations have the same value in the field. -/
def Agree (f : Field) (a b : Config) : Prop :=
  match f with
  | interface => a.interface = b.interface
  | localMac => a.localMac = b.localMac
  | remoteMac => a.remoteMac = b.remoteMac
  | vlan => a.vlan = b.vlan
  | level => a.level = b.level
  | ringId => a.ringId = b.ringId
  | mepId => a.mepId = b.mepId
  | interval => a.interval = b.interval
  | skips => a.skips = b.skips
  | domainName => a.domainName = b.domainName
  | associationName => a.associationName = b.associationName
  | verbose => a.verbose = b.verbose

lemma agree_refl (f : Field) (a : Config) : f.Agree a a := by cases f <;> rfl

lemma Agree.symm {f : Field} {a b : Config} (h : f.Agree a b) : f.Agree b a := by
  cases f <;> exact Eq.symm h

lemma Agree.trans {f : Field} {a b c : Config} (h : f.Agree a b) (h' : f.Agree b c) :
    f.Agree a c := by
  cases f <;> exact Eq.trans h h'

lemma agree_copy (f : Field) (c d : Config) : f.Agree (f.copy c d) c := by cases f <;> rfl

lemma agree_copy_iff {f g : Field} (h : f ≠ g) (c d e : Config) :
    f.Agree (g.copy c d) e ↔ f.Agree d e := by
  cases f <;> cases g <;> first | exact absurd rfl h | rfl

lemma copy_comm (f g : Field) (c d : Config) : f.copy c (g.copy c d) = g.copy c (f.copy c d) := by
  cases f <;> cases g <;> rfl

end Field

lemma eq_of_agree {a b : Config} (h : ∀ f : Field, f.Agree a b) : a = b := by
  obtain ⟨⟩ := a
  obtain ⟨⟩ := b
  simp only [mk.injEq]
  exact ⟨h .interface, h .localMac, h .remoteMac, h .vlan, h .level, h .ringId, h .mepId,
    h .interval, h .skips, h .domainName, h .associationName, h .verbose⟩

/-- The given fields are those of the configuration and the others have their defaults. -/
theorem agree_only (c : Config) (fields : List Field) (f : Field) :
    f.Agree (c.only fields) (if f ∈ fields then c else {}) := by
  induction fields with
  | nil => exact f.agree_refl _
  | cons g gs ih =>
    change f.Agree (g.copy c (c.only gs)) _
    by_cases hfg : f = g
    · subst hfg
      rw [if_pos List.mem_cons_self]
      exact f.agree_copy c _
    · rw [Field.agree_copy_iff hfg]
      simpa [hfg] using ih

lemma only_all (c : Config) : c.only Field.all = c :=
  eq_of_agree fun f => by
    have h := c.agree_only Field.all f
    rwa [if_pos f.mem_all] at h

/-- It does not matter in which order fields are taken over. -/
lemma foldl_copy (c : Config) (fields : List Field) :
    fields.foldl (fun d f => f.copy c d) {} = c.only fields := by
  have : LeftCommutative fun (f : Field) (d : Config) => f.copy c d :=
    ⟨fun f g d => f.copy_comm g c d⟩
  rw [← List.foldr_reverse]
  exact (List.reverse_perm fields).foldr_eq _

/-! ### Values -/

section Values

variable {mac : MacAddress → List Char}

lemma reads_macValue (hmac : ∀ m, MacAddress.ofText (String.ofList (mac m)) = .ok m)
    (v : Option MacAddress) : Reads macValue (writeNullable (fun m => writeText (mac m)) v) v := by
  cases v with
  | none => exact reads_null _
  | some m =>
    exact ((reads_writeText (mac m)).refine (hmac m)).nullable (solid_writeText (mac m))

lemma reads_optionalNatural (v : Option UInt16) :
    Reads (nullable (naturalValue UInt16.size)) (writeNullable (fun n => writeNatural n.toNat) v)
      (v.map UInt16.toNat) := by
  cases v with
  | none => exact reads_null _
  | some n =>
    exact (reads_writeNatural n.toNat_lt (by decide)).nullable (solid_writeNatural n.toNat)

/-- The value of a field is read back into the field. -/
theorem reads_write (hmac : ∀ m, MacAddress.ofText (String.ofList (mac m)) = .ok m) (f : Field)
    (c d : Config) : Reads (f.read d) (f.write mac c) (f.copy c d) := by
  cases f with
  | interface =>
    have h := (reads_writeText c.interface.toList).map fun v => { d with interface := v }
    rwa [String.ofList_toList] at h
  | localMac => exact (reads_macValue hmac c.localMac).map fun v => { d with localMac := v }
  | remoteMac => exact (reads_macValue hmac c.remoteMac).map fun v => { d with remoteMac := v }
  | vlan =>
    have h := (reads_writeNatural c.vlan.toNat_lt (by decide)).map
      fun n => { d with vlan := UInt16.ofNat n }
    rwa [UInt16.ofNat_toNat] at h
  | level =>
    have h := (reads_writeNatural c.level.toNat_lt (by decide)).map
      fun n => { d with level := UInt8.ofNat n }
    rwa [UInt8.ofNat_toNat] at h
  | ringId =>
    have h := (reads_writeNatural c.ringId.toNat_lt (by decide)).map
      fun n => { d with ringId := UInt8.ofNat n }
    rwa [UInt8.ofNat_toNat] at h
  | mepId =>
    have h := (reads_optionalNatural c.mepId).map
      fun n => { d with mepId := n.map UInt16.ofNat }
    have hid : (UInt16.ofNat ∘ UInt16.toNat) = id := funext fun _ => UInt16.ofNat_toNat
    rwa [Option.map_map, hid, Option.map_id] at h
  | interval =>
    have hlt : c.interval.millis < UInt64.size := by cases c.interval <;> decide
    exact ((reads_writeNatural hlt (Nat.le_refl _)).refine
      (CcmInterval.ofMillis_millis c.interval)).map fun i => { d with interval := i }
  | skips =>
    have h := (reads_writeNatural c.skips.toNat_lt (by decide)).map
      fun n => { d with skips := UInt32.ofNat n }
    rwa [UInt32.ofNat_toNat] at h
  | domainName =>
    have h := (reads_writeText c.domainName.toList).map fun v => { d with domainName := v }
    rwa [String.ofList_toList] at h
  | associationName =>
    have h := (reads_writeText c.associationName.toList).map
      fun v => { d with associationName := v }
    rwa [String.ofList_toList] at h
  | verbose => exact (reads_writeBool c.verbose).map fun b => { d with verbose := b }

end Values

/-! ### Members -/

section Members

variable {d e : Draft} {s r : List Char}

lemma members_of_bracket (h : namedMember d s = .ok (e, '\x7d' :: r)) :
    members d s = .ok (e.config, r) := by
  rw [members]
  split
  · next h' =>
    rw [h] at h'
    cases h'
  · next h' =>
    rw [h] at h'
    cases h'
    rfl

/-- Behind a comma the next member is read. -/
lemma members_of_comma (h : namedMember d s = .ok (e, ',' :: '"' :: r)) :
    members d s = members e r := by
  rw [members]
  split
  · next h' =>
    rw [h] at h'
    cases h'
  · next h' =>
    rw [h] at h'
    cases h'
    rfl

lemma namedMember_of_reads {f : Field} (hf : f ∉ d.given) {text rest : List Char} {c : Config}
    (h : Reads (f.read d.config) text c) (hr : Closed rest) :
    namedMember d (f.name.toList.flatMap escape ++ '"' :: ':' :: (text ++ rest)) =
      .ok (⟨c, f :: d.given⟩, rest) := by
  have hname := string_escaped_text f.name.toList (':' :: (text ++ rest))
  have hcolon : colon (':' :: (text ++ rest)) = .ok ((), text ++ rest) := rfl
  unfold namedMember
  simp only [bind, StateT.bind, Except.bind, hname]
  unfold member
  rw [String.ofList_toList, Field.ofName?_name]
  simp only [hf, if_false, bind, StateT.bind, Except.bind, hcolon, h rest hr]
  rfl

end Members

/-! ### Objects -/

section Objects

variable (c : Config) (spell : Field → MacAddress.Spelling)

/-- The members of some fields, each with a spelling of its own for an address. -/
def spelledMembers (fields : List Field) : List (List Char × List Char) :=
  fields.map fun f => (f.name.toList, f.write (spell f).write c)

/-- The object with some of the fields, as `writeFields` writes it, but with a spelling for each
field. -/
def writeSpelled (fields : List Field) : List Char := writeObject (c.spelledMembers spell fields)

/-- What stands behind the opening quote of a member. -/
def memberTail (f : Field) : List Char :=
  f.name.toList.flatMap escape ++ '"' :: ':' :: f.write (spell f).write c

/-- What stands behind a member: the others, and the end of the object. -/
def objectTail (fields : List Field) : List Char :=
  fields.flatMap (fun f => ',' :: '"' :: c.memberTail spell f) ++ ['\x7d']

lemma closed_objectTail (fields : List Field) : Closed (c.objectTail spell fields) := by
  cases fields with
  | nil => exact .bracket []
  | cons f fields => exact .comma _

lemma intercalate_comma (text : List Char) (texts : List (List Char)) :
    List.intercalate [','] (text :: texts) = text ++ texts.flatMap fun t => ',' :: t := by
  induction texts generalizing text with
  | nil => simp
  | cons t ts ih => simp [List.intercalate_cons_cons, ih]

lemma writeSpelled_cons (f : Field) (fields : List Field) : c.writeSpelled spell (f :: fields) =
    '\x7b' :: '"' :: (c.memberTail spell f ++ c.objectTail spell fields) := by
  simp [writeSpelled, spelledMembers, writeObject, intercalate_comma, writeText, memberTail,
    objectTail, List.flatMap_map]

lemma objectTail_cons (f : Field) (fields : List Field) : c.objectTail spell (f :: fields) =
    ',' :: '"' :: (c.memberTail spell f ++ c.objectTail spell fields) := by
  simp [objectTail]

lemma namedMember_memberTail {f : Field} {d : Draft} (hf : f ∉ d.given) (fields : List Field) :
    namedMember d (c.memberTail spell f ++ c.objectTail spell fields) =
      .ok (⟨f.copy c d.config, f :: d.given⟩, c.objectTail spell fields) := by
  have h := namedMember_of_reads hf (reads_write (spell f).ofText_write f c d.config)
    (c.closed_objectTail spell fields)
  unfold memberTail
  rw [List.append_assoc]
  exact h

/-- The members are read one by one into what was read before. -/
theorem members_spelled {f : Field} {fields : List Field} {d : Draft} (hn : (f :: fields).Nodup)
    (hd : ∀ g ∈ f :: fields, g ∉ d.given) :
    members d (c.memberTail spell f ++ c.objectTail spell fields) =
      .ok ((f :: fields).foldl (fun e g => g.copy c e) d.config, []) := by
  have hmember := c.namedMember_memberTail spell (hd f List.mem_cons_self) fields
  -- On the members behind the first; none of them is given yet in the draft read so far.
  induction fields generalizing f d with
  | nil => exact members_of_bracket hmember
  | cons g gs ih =>
    obtain ⟨hf, hgs⟩ := List.nodup_cons.1 hn
    have hgiven : ∀ k ∈ g :: gs, k ∉ f :: d.given := by
      intro k hk hmem
      rcases List.mem_cons.1 hmem with rfl | hmem
      · exact hf hk
      · exact hd k (List.mem_cons_of_mem f hk) hmem
    have hnext := c.namedMember_memberTail spell (d := ⟨f.copy c d.config, f :: d.given⟩)
      (hgiven g List.mem_cons_self) gs
    rw [objectTail_cons] at hmember
    rw [objectTail_cons, members_of_comma hmember]
    exact ih hgs hgiven hnext

theorem ofText_writeSpelled {fields : List Field} (hn : fields.Nodup) :
    ofText (String.ofList (c.writeSpelled spell fields)) = .ok (c.only fields) := by
  have hvalue : value (c.writeSpelled spell fields) = .ok (c.only fields, []) := by
    cases fields with
    | nil => rfl
    | cons f fields =>
      rw [writeSpelled_cons, ← foldl_copy]
      exact c.members_spelled spell hn fun _ _ => List.not_mem_nil
  unfold ofText
  rw [String.toList_ofList, hvalue]
  rfl

lemma toText_eq : c.toText = String.ofList (c.writeSpelled (fun _ => .usual) Field.all) := rfl

end Objects

/-- A configuration that is written is read back, whatever the spelling of its addresses. If some
fields are left out and the others come in any order, then the fields that are given are read back
and the others have their defaults. -/
theorem read_back :
    (∀ c : Config, ofText c.toText = .ok c) ∧
    (∀ (c : Config) (spell : Field → MacAddress.Spelling),
      ofText (String.ofList (c.writeSpelled spell Field.all)) = .ok c) ∧
    ∀ (c : Config) (spell : Field → MacAddress.Spelling) (fields : List Field), fields.Nodup →
      ofText (String.ofList (c.writeSpelled spell fields)) = .ok (c.only fields) ∧
        ∀ f : Field, f.Agree (c.only fields) (if f ∈ fields then c else {}) := by
  have hall : ∀ (c : Config) (spell : Field → MacAddress.Spelling),
      ofText (String.ofList (c.writeSpelled spell Field.all)) = .ok c := by
    intro c spell
    rw [c.ofText_writeSpelled spell (by decide), only_all]
  refine ⟨fun c => ?_, hall, fun c spell fields hn => ?_⟩
  · rw [toText_eq]
    exact hall c _
  · exact ⟨c.ofText_writeSpelled spell hn, c.agree_only fields⟩

/-- Two of the fields in another order, with the addresses in dots and capitals. -/
theorem read_back_two :
    [Field.vlan, Field.remoteMac].Nodup ∧
    ofText "\x7b\"vlan\":100,\"remote_mac\":\"02AB.CDEF.0009\"\x7d" =
      .ok { vlan := 100, remoteMac := some ⟨2, 0xAB, 0xCD, 0xEF, 0, 9⟩ } := by
  have hn : [Field.vlan, Field.remoteMac].Nodup := by decide
  refine ⟨hn, ?_⟩
  exact (read_back.2.2 { vlan := 100, remoteMac := some ⟨2, 0xAB, 0xCD, 0xEF, 0, 9⟩, level := 5 }
    (fun _ => ⟨.dots, true⟩) [.vlan, .remoteMac] hn).1

end Config
end RingContinuity
