import RingContinuity.Proofs.FrameAccessors
import RingContinuity.Proofs.FrameAppends

/-!
# Overwriting a field

The octets of one field are written over those in the frame. An accessor that looks at no octet of
the field finds what it found before, and the reader of the field finds what was written. No call
moves a field or changes the length, so that calls for different fields may come in any order, even
if some of them fail.
-/

namespace RingContinuity

/-! ### Octets that are overwritten -/

namespace Octets

section Overwriting

variable {xs a b : Octets} {i j : Nat}

lemma getElem?_overwrite (h : i + a.length ≤ xs.length) (k : Nat) :
    (overwrite xs i a)[k]? = if i ≤ k ∧ k < i + a.length then a[k - i]? else xs[k]? := by
  unfold overwrite
  have htake : (xs.take i).length = i := by
    rw [List.length_take]
    omega
  by_cases hk : k < i
  · rw [if_neg (by omega), List.append_assoc, List.getElem?_append_left (by omega),
      List.getElem?_take_of_lt hk]
  · rw [List.append_assoc, List.getElem?_append_right (by omega), htake]
    by_cases hka : k < i + a.length
    · rw [if_pos (by omega), List.getElem?_append_left (by omega)]
    · rw [if_neg (by omega), List.getElem?_append_right (by omega), List.getElem?_drop]
      congr 1
      omega

/-- What was written is found again, each octet at its place. -/
lemma getElem_overwrite (h : i + a.length ≤ xs.length) {k : Nat} (hk : k < a.length)
    (hi : i + k < (overwrite xs i a).length) : (overwrite xs i a)[i + k] = a[k] := by
  apply Option.some.inj
  rw [← List.getElem?_eq_getElem hi, getElem?_overwrite h, if_pos (by omega),
    Nat.add_sub_cancel_left, List.getElem?_eq_getElem hk]

lemma sameAt_overwrite (h : i + a.length ≤ xs.length) :
    SameAt (fun k => ¬ (i ≤ k ∧ k < i + a.length)) xs (overwrite xs i a) where
  length := length_overwrite h
  octet k hk := by rw [getElem?_overwrite h, if_neg hk]

lemma overwrite_comm (hi : i + a.length ≤ xs.length) (hj : j + b.length ≤ xs.length)
    (hij : i + a.length ≤ j ∨ j + b.length ≤ i) :
    overwrite (overwrite xs i a) j b = overwrite (overwrite xs j b) i a := by
  apply List.ext_getElem?
  intro k
  rw [getElem?_overwrite (by rwa [length_overwrite hi]), getElem?_overwrite hi,
    getElem?_overwrite (by rwa [length_overwrite hj]), getElem?_overwrite hj]
  by_cases hk : i ≤ k ∧ k < i + a.length
  · have hkj : ¬ (j ≤ k ∧ k < j + b.length) := by omega
    rw [if_pos hk, if_neg hkj, if_pos hk]
  · rw [if_neg hk, if_neg hk]

lemma drop_overwrite (h : i ≤ xs.length) :
    (overwrite xs i a).drop i = a ++ xs.drop (i + a.length) := by
  have htake : (xs.take i).length = i := by
    rw [List.length_take, Nat.min_eq_left h]
  unfold overwrite
  rw [List.append_assoc, List.drop_left' htake]

lemma read32_overwrite {n : UInt32} (h : i + 4 ≤ xs.length)
    (hi : i + 4 ≤ (overwrite xs i (be32 n)).length) :
    Octets.read32 (overwrite xs i (be32 n)) i hi = n := by
  have h0 : (overwrite xs i (be32 n))[i] = (n >>> 24).toUInt8 :=
    getElem_overwrite (a := be32 n) (k := 0) h (show 0 < 4 by decide) (by omega)
  unfold Octets.read32
  rw [h0, getElem_overwrite h (show 1 < 4 by decide) (by omega),
    getElem_overwrite h (show 2 < 4 by decide) (by omega),
    getElem_overwrite h (show 3 < 4 by decide) (by omega)]
  exact word32_be32 n

lemma readAt_overwrite {m : MacAddress} (h : i ≤ xs.length)
    (hi : i + 6 ≤ (overwrite xs i m.octets).length) :
    MacAddress.readAt (overwrite xs i m.octets) i hi = m := by
  have hd := MacAddress.drop_eq_octets hi
  rw [drop_overwrite h] at hd
  have ho := congrArg MacAddress.ofOctets? (List.append_inj_left hd rfl)
  rw [MacAddress.ofOctets?_octets, MacAddress.ofOctets?_octets] at ho
  exact (Option.some.inj ho).symm

end Overwriting
end Octets

namespace Frame

/-! ### Fields that are read back -/

section ReadBack

variable {g : Frame} {xs : Octets} {m : MacAddress}

lemma address_of_overwrite {off : Nat} (hg : g.octets = xs.overwrite off m.octets)
    (h : off + 6 ≤ xs.length) (name : FrameField) :
    (g.need (off + 6) name fun hl => MacAddress.readAt g.octets off hl) = .ok m := by
  have hl : off + 6 ≤ g.octets.length := by
    rw [hg, Octets.length_overwrite h]
    exact h
  rw [need_of_le hl]
  simp only [hg]
  rw [Octets.readAt_overwrite (by omega)]

lemma transactionId_of_overwrite {off : Nat} {id : UInt32} (hoff : g.payloadOffset = off)
    (hg : g.octets = xs.overwrite off (Octets.be32 id)) (h : off + 4 ≤ xs.length) :
    g.transactionId = .ok id := by
  have hl : off + 4 ≤ g.octets.length := by
    rw [hg, Octets.length_overwrite h]
    exact h
  unfold transactionId word32At
  rw [hoff, need_of_le hl]
  simp only [hg]
  rw [Octets.read32_overwrite h]

/-- The common header is read if it is complete. -/
lemma header_map_eq_ok_iff {β : Type} {part : CfmHeader → β} {b : β}
    (hp : ∀ h, part (CfmHeader.readAt g.octets g.cfmOffset h) = b) :
    g.header.map part = .ok b ↔ g.octets.headerPlace + 4 ≤ g.octets.length := by
  rw [← cfmOffset_eq_headerPlace]
  unfold header
  rw [need_map]
  constructor
  · intro h
    exact (of_need h).1
  · intro h
    exact (need_of_le h _ _).trans (congrArg Except.ok (hp h))

lemma flags_eq_ok_iff {b : UInt8} (h : g.octets[g.octets.headerPlace + 2]? = some b) :
    g.header.map CfmHeader.flags = .ok b ↔ g.octets.headerPlace + 4 ≤ g.octets.length := by
  rw [← cfmOffset_eq_headerPlace] at h
  exact header_map_eq_ok_iff fun _ => (List.getElem?_eq_some_iff.1 h).2

lemma opcode_eq_ok_iff {k : Opcode} (h : g.octets[g.octets.headerPlace + 1]? = some k.code) :
    g.opcode = .ok k ↔ g.octets.headerPlace + 4 ≤ g.octets.length := by
  have hk : g.opcode = .ok k ↔ g.header.map CfmHeader.opcode = .ok k.code := by
    rw [opcode_eq_bind]
    constructor
    · intro ho
      obtain ⟨code, hc, ho⟩ := ok_of_bind ho
      rw [hc, Opcode.eq_code_of_ofCode ho]
    · intro hc
      rw [hc]
      exact Opcode.ofCode_code k
  rw [← cfmOffset_eq_headerPlace] at h
  rw [hk]
  exact header_map_eq_ok_iff fun _ => (List.getElem?_eq_some_iff.1 h).2

end ReadBack

/-! ### Calls that overwrite a field -/

/-- A call that overwrites a field. -/
inductive Overwrite
  | destination (m : MacAddress)
  | source (m : MacAddress)
  | opcode (k : Opcode)
  | flags (b : UInt8)
  | transactionId (id : UInt32)

namespace Overwrite

def edit : Overwrite → Edit Unit
  | destination m => setDestination m
  | source m => setSource m
  | opcode k => setOpcode k
  | flags b => setFlags b
  | transactionId id => setTransactionId id

def field : Overwrite → FrameField
  | destination _ => .destination
  | source _ => .source
  | opcode _ => .opcode
  | flags _ => .flags
  | transactionId _ => .transactionId

/-- Where the field starts in a frame of such octets. -/
def start (xs : Octets) : Overwrite → Nat
  | destination _ => 0
  | source _ => 6
  | opcode _ => xs.headerPlace + 1
  | flags _ => xs.headerPlace + 2
  | transactionId _ => xs.headerPlace + 4

/-- The octets that are written, as many as the field has. -/
def written : Overwrite → Octets
  | destination m => m.octets
  | source m => m.octets
  | opcode k => [k.code]
  | flags b => [b]
  | transactionId id => Octets.bigEndian 4 id.toNat

/-- The kind that a call gives to the frame. -/
def kind? : Overwrite → Option Opcode
  | opcode k => some k
  | _ => none

/-- The place `i` belongs to the field. -/
def Covers (c : Overwrite) (xs : Octets) (i : Nat) : Prop :=
  c.start xs ≤ i ∧ i < c.start xs + c.written.length

/-- The reader of the field finds what was written, if it finds anything: opcode and flags are read
from a complete common header, and the other fields are read as soon as they can be overwritten. -/
def ReadBack (g : Frame) : Overwrite → Prop
  | destination m => g.destination = .ok m
  | source m => g.source = .ok m
  | opcode k => g.opcode = .ok k ↔ g.octets.headerPlace + 4 ≤ g.octets.length
  | flags b =>
    g.header.map CfmHeader.flags = .ok b ↔ g.octets.headerPlace + 4 ≤ g.octets.length
  | transactionId id => g.transactionId = .ok id

/-- What a call that succeeds makes of a frame: the field is new, and everything else is as it
was. -/
structure Changes (c : Overwrite) (f g : Frame) : Prop where
  length : g.octets.length = f.octets.length
  field : ∀ i, c.Covers f.octets i → g.octets[i]? = c.written[i - c.start f.octets]?
  others : ∀ i, ¬ c.Covers f.octets i → g.octets[i]? = f.octets[i]?
  kind : g.kind = c.kind?.or f.kind
  isTagged : g.isTagged = f.isTagged
  vlan : g.vlan? = f.vlan?
  etherType : g.etherType = f.etherType
  cfmOffset : g.cfmOffset = f.cfmOffset
  readBack : c.ReadBack g
  unaffected : ∀ {α : Type} {read : Frame → α} {places : Octets → Nat → Prop},
    Accessor read places → (∀ i, places f.octets i → ¬ c.Covers f.octets i) → read g = read f

section Calls

variable {c c' : Overwrite} {xs : Octets} {f g : Frame}

/-! ### Where the fields are -/

lemma start_congr {ys : Octets} (h : ys.headerPlace = xs.headerPlace) (c : Overwrite) :
    c.start ys = c.start xs := by
  unfold start
  rw [h]

/-- No field lies between the addresses and the common header. -/
lemma not_covers {i : Nat} (hi : 12 ≤ i) (hp : i < xs.headerPlace) (c : Overwrite) :
    ¬ c.Covers xs i := by
  unfold Covers
  cases c <;> simp only [start, written, MacAddress.length_octets] <;> omega

lemma not_covers_type {i : Nat} (h : 12 ≤ i ∧ i < 14) (c : Overwrite) : ¬ c.Covers xs i :=
  not_covers h.1 (h.2.trans_le xs.le_headerPlace) c

/-- Different fields have no octet in common. -/
lemma apart (h : c'.field ≠ c.field) (xs : Octets) :
    c.start xs + c.written.length ≤ c'.start xs ∨
      c'.start xs + c'.written.length ≤ c.start xs := by
  have hle := xs.le_headerPlace
  -- A field is apart from the other four; there is nothing to show of a field and itself.
  cases c <;> cases c' <;> try exact absurd rfl h
  all_goals
    simp only [start, written, MacAddress.length_octets, List.length_singleton,
      Octets.length_bigEndian]
    omega

lemma kind?_comm (h : c'.field ≠ c.field) (k : Option Opcode) :
    c'.kind?.or (c.kind?.or k) = c.kind?.or (c'.kind?.or k) := by
  cases c with
  | opcode k₀ =>
    cases c' with
    | opcode k₁ => exact absurd rfl h
    | destination _ | source _ | flags _ | transactionId _ => rfl
  | destination _ | source _ | flags _ | transactionId _ => rfl

/-! ### What a call does -/

/-- The frame with the field overwritten. -/
def replaced (c : Overwrite) (f : Frame)
    (h : c.start f.octets + c.written.length ≤ f.octets.length) : Frame where
  octets := Octets.overwrite f.octets (c.start f.octets) c.written
  kind := c.kind?.or f.kind
  length_le := by
    rw [Octets.length_overwrite h]
    exact f.length_le

def note : Option Opcode → Edit Unit
  | some k => setKind k
  | none => pure ()

/-- All calls write their octets and then note their kind. -/
lemma edit_eq (c : Overwrite) (f : Frame) :
    c.edit f = (writeAt (c.start f.octets) c.written c.field >>= fun _ => note c.kind?) f := by
  cases c with
  | destination m => exact congrFun bind_pure_unit.symm f
  | source m => exact congrFun bind_pure_unit.symm f
  | opcode k =>
    change (writeAt (f.cfmOffset + 1) [k.code] .opcode >>= fun _ => setKind k) f = _
    rw [cfmOffset_eq_headerPlace]
    rfl
  | flags b =>
    change writeAt (f.cfmOffset + 2) [b] .flags f = _
    rw [cfmOffset_eq_headerPlace]
    exact congrFun bind_pure_unit.symm f
  | transactionId id =>
    change writeAt (f.cfmOffset + 4) (Octets.be32 id) .transactionId f = _
    rw [cfmOffset_eq_headerPlace, Octets.be32_eq_bigEndian]
    exact congrFun bind_pure_unit.symm f

lemma edit_inside (h : c.start f.octets + c.written.length ≤ f.octets.length) :
    c.edit f = .ok () (c.replaced f h) := by
  have hw : writeAt (c.start f.octets) c.written c.field f =
      .ok () { f with
        octets := Octets.overwrite f.octets (c.start f.octets) c.written
        length_le := by rw [Octets.length_overwrite h]; exact f.length_le } := dif_pos h
  rw [edit_eq, Edit.bind_ok hw]
  unfold replaced
  cases c.kind? with
  | none => rfl
  | some k => rfl

lemma edit_outside (h : f.octets.length < c.start f.octets + c.written.length) :
    c.edit f = .error (.malformed (.tooShort f.octets.length c.field)) f := by
  rw [edit_eq]
  exact Edit.bind_error (dif_neg (Nat.not_le.2 h))

lemma inside_of_edit (h : c.edit f = .ok () g) :
    ∃ hl : c.start f.octets + c.written.length ≤ f.octets.length, g = c.replaced f hl := by
  by_cases hl : c.start f.octets + c.written.length ≤ f.octets.length
  · rw [edit_inside hl] at h
    cases h
    exact ⟨hl, rfl⟩
  · rw [edit_outside (Nat.lt_of_not_le hl)] at h
    cases h

lemma outside_of_edit {cause : Error} (h : c.edit f = .error cause g) :
    f.octets.length < c.start f.octets + c.written.length := by
  refine Nat.lt_of_not_le fun hl => ?_
  rw [edit_inside hl] at h
  cases h

lemma sameAt_replaced (h : c.start f.octets + c.written.length ≤ f.octets.length) :
    Octets.SameAt (fun i => ¬ c.Covers f.octets i) f.octets (c.replaced f h).octets :=
  Octets.sameAt_overwrite h

lemma headerPlace_replaced (h : c.start f.octets + c.written.length ≤ f.octets.length) :
    (c.replaced f h).octets.headerPlace = f.octets.headerPlace :=
  Octets.SameAt.headerPlace ((sameAt_replaced h).mono fun _ hi => not_covers_type hi c)

/-- The first octet of a field that is overwritten is the first one written. -/
lemma getElem?_start_replaced (h : c.start f.octets + c.written.length ≤ f.octets.length)
    (hpos : 0 < c.written.length) :
    (c.replaced f h).octets[c.start f.octets]? = c.written[0]? := by
  refine (Octets.getElem?_overwrite h _).trans ?_
  rw [if_pos ⟨Nat.le_refl _, Nat.lt_add_of_pos_right hpos⟩, Nat.sub_self]

lemma readBack_replaced (h : c.start f.octets + c.written.length ≤ f.octets.length) :
    c.ReadBack (c.replaced f h) := by
  have hplace := headerPlace_replaced h
  cases c with
  | destination m => exact address_of_overwrite rfl h .destination
  | source m => exact address_of_overwrite rfl h .source
  | opcode k =>
    refine opcode_eq_ok_iff ?_
    rw [hplace]
    exact getElem?_start_replaced h Nat.one_pos
  | flags b =>
    refine flags_eq_ok_iff ?_
    rw [hplace]
    exact getElem?_start_replaced h Nat.one_pos
  | transactionId id =>
    refine transactionId_of_overwrite ?_
      (congrArg (Octets.overwrite f.octets _) (Octets.be32_eq_bigEndian id).symm) h
    rw [payloadOffset_eq_headerPlace, hplace]
    rfl

theorem changes_replaced (h : c.start f.octets + c.written.length ≤ f.octets.length) :
    c.Changes f (c.replaced f h) where
  length := (sameAt_replaced h).length
  field i hi := (Octets.getElem?_overwrite h i).trans (if_pos hi)
  others := (sameAt_replaced h).octet
  kind := rfl
  isTagged := Accessor.isTagged.congr ((sameAt_replaced h).mono fun _ hi => not_covers_type hi c)
  vlan := Accessor.vlan.congr
    ((sameAt_replaced h).mono fun _ hi => not_covers hi.1 (lt_min_iff.1 hi.2).2 c)
  etherType := Accessor.etherType.congr
    ((sameAt_replaced h).mono fun _ hi => not_covers hi.1 hi.2 c)
  cfmOffset := Accessor.cfmOffset.congr ((sameAt_replaced h).mono fun _ hi => not_covers_type hi c)
  readBack := readBack_replaced h
  unaffected ha hp := ha.congr ((sameAt_replaced h).mono hp)

end Calls
end Overwrite

/-! ### Two calls -/

/-- A call with its result, and the frame that it leaves behind. -/
def overwritten (f : Frame) (c : Overwrite) : Except Error Unit × Frame :=
  match c.edit f with
  | .ok _ g => (.ok (), g)
  | .error cause g => (.error cause, g)

section Two

variable {f : Frame} {c c' : Overwrite}

lemma overwritten_inside (h : c.start f.octets + c.written.length ≤ f.octets.length) :
    f.overwritten c = (.ok (), c.replaced f h) := by
  unfold overwritten
  rw [Overwrite.edit_inside h]

lemma overwritten_outside (h : f.octets.length < c.start f.octets + c.written.length) :
    f.overwritten c = (.error (.malformed (.tooShort f.octets.length c.field)), f) := by
  unfold overwritten
  rw [Overwrite.edit_outside h]

/-- Whether a call fails depends on the length and on the place of the common header. -/
lemma overwritten_fst_congr {g : Frame} (hl : g.octets.length = f.octets.length)
    (hp : g.octets.headerPlace = f.octets.headerPlace) (c : Overwrite) :
    (g.overwritten c).1 = (f.overwritten c).1 := by
  have hs := Overwrite.start_congr hp c
  by_cases h : c.start f.octets + c.written.length ≤ f.octets.length
  · rw [overwritten_inside h, overwritten_inside (by rwa [hs, hl])]
  · rw [overwritten_outside (Nat.lt_of_not_le h),
      overwritten_outside (by rw [hs, hl]; exact Nat.lt_of_not_le h), hl]

lemma eq_of_octets {f g : Frame} (ho : f.octets = g.octets) (hk : f.kind = g.kind) : f = g := by
  cases f
  cases g
  cases ho
  cases hk
  rfl

/-- A call leaves the result of every other call as it was. -/
theorem overwritten_fst (f : Frame) (c c' : Overwrite) :
    ((f.overwritten c).2.overwritten c').1 = (f.overwritten c').1 := by
  by_cases h : c.start f.octets + c.written.length ≤ f.octets.length
  · rw [overwritten_inside h]
    exact overwritten_fst_congr (Overwrite.sameAt_replaced h).length
      (Overwrite.headerPlace_replaced h) c'
  · rw [overwritten_outside (Nat.lt_of_not_le h)]

lemma overwritten_inside_twice (h : c.start f.octets + c.written.length ≤ f.octets.length)
    (h' : c'.start f.octets + c'.written.length ≤ f.octets.length) :
    ((f.overwritten c).2.overwritten c').2.octets =
      Octets.overwrite (Octets.overwrite f.octets (c.start f.octets) c.written)
        (c'.start f.octets) c'.written ∧
    ((f.overwritten c).2.overwritten c').2.kind = c'.kind?.or (c.kind?.or f.kind) := by
  have hs := Overwrite.start_congr (Overwrite.headerPlace_replaced h) c'
  have hl : c'.start (c.replaced f h).octets + c'.written.length ≤
      (c.replaced f h).octets.length := by
    rwa [hs, (Overwrite.sameAt_replaced h).length]
  rw [overwritten_inside h, overwritten_inside hl]
  exact ⟨congrArg (Octets.overwrite (c.replaced f h).octets · c'.written) hs, rfl⟩

lemma eq_of_error {cause : Error} (h : (f.overwritten c).1 = .error cause) :
    (f.overwritten c).2 = f := by
  by_cases hl : c.start f.octets + c.written.length ≤ f.octets.length
  · rw [overwritten_inside hl] at h
    cases h
  · rw [overwritten_outside (Nat.lt_of_not_le hl)]

/-- A call that fails also fails behind another call, and changes nothing there either. -/
lemma overwritten_outside_behind (h : f.octets.length < c.start f.octets + c.written.length)
    (c' : Overwrite) : ((f.overwritten c').2.overwritten c).2 = (f.overwritten c').2 := by
  have hfst := overwritten_fst f c' c
  rw [overwritten_outside h] at hfst
  exact eq_of_error hfst

theorem overwritten_comm (hne : c'.field ≠ c.field) (f : Frame) :
    ((f.overwritten c).2.overwritten c').2 = ((f.overwritten c').2.overwritten c).2 := by
  by_cases h : c.start f.octets + c.written.length ≤ f.octets.length
  · by_cases h' : c'.start f.octets + c'.written.length ≤ f.octets.length
    · obtain ⟨ho, hk⟩ := overwritten_inside_twice h h'
      obtain ⟨ho', hk'⟩ := overwritten_inside_twice h' h
      refine eq_of_octets ?_ ?_
      · rw [ho, ho', Octets.overwrite_comm h h' (Overwrite.apart hne f.octets)]
      · rw [hk, hk', Overwrite.kind?_comm hne]
    -- A call that is refused is refused behind the other one as well, which is left alone.
    · have hout := Nat.lt_of_not_le h'
      rw [overwritten_outside_behind hout, overwritten_outside hout]
  · have hout := Nat.lt_of_not_le h
    rw [overwritten_outside_behind hout, overwritten_outside hout]

end Two

/-- A call that overwrites a field changes the octets of this field and no others, so that the
accessors that do not look at the field find what they found before and the reader of the field
finds what was written. It fails exactly if the field does not lie in the frame as a whole, names
the field, and then leaves the frame as it was. Calls for different fields have the same results and
leave the same frame in either order. -/
theorem only_field_overwritten (f : Frame) (c : Overwrite) :
    (∀ g, c.edit f = .ok () g → c.Changes f g) ∧
    (∀ cause g, c.edit f = .error cause g →
      cause = .malformed (.tooShort f.octets.length c.field) ∧ g = f) ∧
    ((∃ cause g, c.edit f = .error cause g) ↔
      f.octets.length < c.start f.octets + c.written.length) ∧
    ∀ c' : Overwrite, c'.field ≠ c.field →
      ((f.overwritten c).2.overwritten c').2 = ((f.overwritten c').2.overwritten c).2 ∧
      ((f.overwritten c).2.overwritten c').1 = (f.overwritten c').1 ∧
      ((f.overwritten c').2.overwritten c).1 = (f.overwritten c).1 := by
  refine ⟨?_, ?_, ?_, fun c' hne => ⟨overwritten_comm hne f, overwritten_fst f c c',
    overwritten_fst f c' c⟩⟩
  · intro g h
    obtain ⟨hl, rfl⟩ := Overwrite.inside_of_edit h
    exact Overwrite.changes_replaced hl
  · intro cause g h
    have hl := Overwrite.outside_of_edit h
    rw [Overwrite.edit_outside hl] at h
    cases h
    exact ⟨rfl, rfl⟩
  · constructor
    · rintro ⟨cause, g, h⟩
      exact Overwrite.outside_of_edit h
    · intro hl
      exact ⟨_, f, Overwrite.edit_outside hl⟩

/-- A message with a VLAN tag that is cut behind the flags of its common header. -/
def cutMessage : Frame where
  octets := [2, 0, 0, 0, 0, 2, 2, 0, 0, 0, 0, 1, 0x81, 0, 0, 100, 0x89, 2, 0x20, 3, 0]
  kind := none
  length_le := by decide

/-- The flags of the cut message can be overwritten although no reader finds them, its transaction
id cannot, and its opcode may be overwritten before or after the flags. -/
theorem only_field_overwritten_cut :
    (∃ g, (Overwrite.flags 0x80).edit cutMessage = .ok () g ∧
      (Overwrite.flags 0x80).Changes cutMessage g ∧ g.octets.getLast? = some 0x80) ∧
    (∃ cause, (Overwrite.transactionId 7).edit cutMessage = .error cause cutMessage ∧
      cause = .malformed (.tooShort 21 .transactionId)) ∧
    ((cutMessage.overwritten (.flags 0x80)).2.overwritten (.opcode .lbr)).2 =
      ((cutMessage.overwritten (.opcode .lbr)).2.overwritten (.flags 0x80)).2 := by
  obtain ⟨hchanges, -, -, hcomm⟩ := only_field_overwritten cutMessage (.flags 0x80)
  obtain ⟨-, hcause, hfails, -⟩ := only_field_overwritten cutMessage (.transactionId 7)
  obtain ⟨cause, g, hc⟩ := hfails.2 (by decide)
  obtain ⟨rfl, rfl⟩ := hcause cause g hc
  exact ⟨⟨_, rfl, hchanges _ rfl, rfl⟩, ⟨_, hc, rfl⟩, (hcomm (.opcode .lbr) (by decide)).1⟩

end Frame
end RingContinuity
