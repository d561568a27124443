import RingContinuity.Proofs.FrameBuilding

/-!
# Appending to a frame

A frame grows by calls that append to it, and what a call appends is said here without the call. A
call that finds too little room fails and appends nothing, except that the record writer, which
writes a record in three parts, leaves the parts that still fitted. Nothing that stands in a frame
is changed by what comes later.
-/

namespace RingContinuity

namespace Octets

/-- The last `count` digits of a number to the base 256, most significant first. -/
def bigEndian : Nat → Nat → Octets
  | 0, _ => []
  | count + 1, n => bigEndian count (n / 256) ++ [UInt8.ofNat n]

lemma be16_eq_bigEndian (n : UInt16) : be16 n = bigEndian 2 n.toNat := by
  unfold be16
  rw [← UInt8.ofNat_uInt16ToNat, ← UInt8.ofNat_uInt16ToNat, UInt16.toNat_shiftRight,
    Nat.shiftRight_eq_div_pow]
  rfl

lemma be32_eq_bigEndian (n : UInt32) : be32 n = bigEndian 4 n.toNat := by
  unfold be32
  simp only [← UInt8.ofNat_uInt32ToNat, UInt32.toNat_shiftRight, Nat.shiftRight_eq_div_pow,
    bigEndian, Nat.div_div_eq_div_mul]
  rfl

lemma be16_ofNat {n : Nat} (h : n < 65536) : be16 (UInt16.ofNat n) = bigEndian 2 n := by
  rw [be16_eq_bigEndian, UInt16.toNat_ofNat_of_lt' h]

@[simp] lemma length_bigEndian (count n : Nat) : (bigEndian count n).length = count := by
  induction count generalizing n with
  | zero => rfl
  | succ count ih => rw [bigEndian, List.length_append, ih, List.length_singleton]

end Octets

namespace Frame

/-- How a frame begins: with an Ethernet header, or with octets that were received. -/
inductive Origin
  | addresses (destination source : MacAddress) (tag : Option VlanTag)
  | received (xs : Octets)

namespace Origin

def frame : Origin → Except Error Frame
  | addresses destination source tag => .ok (start destination source tag)
  | received xs => ofOctets xs

def octets : Origin → Octets
  | addresses destination source tag => ethernetHeader destination source tag
  | received xs => xs

end Origin

/-- A call that appends to a frame. -/
inductive Append
  | put (xs : Octets)
  | put8 (n : UInt8)
  | put16 (n : UInt16)
  | put32 (n : UInt32)
  | header (level flags firstTlvOffset : UInt8) (kind : Opcode) (version : UInt8)
  | tlv (type : UInt8) (value : Octets)
  | endTlv

namespace Append

def edit : Append → Edit Unit
  | put xs => Frame.put xs
  | put8 n => Frame.put8 n
  | put16 n => Frame.put16 n
  | put32 n => Frame.put32 n
  | header level flags firstTlvOffset kind version =>
    addHeader level flags firstTlvOffset kind version
  | tlv type value => addTlv type value
  | endTlv => addEndTlv

/-- What a call appends if it succeeds. Levels above seven are written as zero, and a record of type
zero is this one octet, whatever its value. -/
def written : Append → Octets
  | put xs => xs
  | put8 n => [n]
  | put16 n => Octets.bigEndian 2 n.toNat
  | put32 n => Octets.bigEndian 4 n.toNat
  | header level flags firstTlvOffset kind version =>
    [UInt8.ofNat (32 * (if level.toNat ≤ 7 then level.toNat else 0) + version.toNat % 32),
      kind.code, flags, firstTlvOffset]
  | tlv type value =>
    if type = 0 then [0] else type :: (Octets.bigEndian 2 value.length ++ value)
  | endTlv => [0]

/-- The kind that a call gives to the frame. -/
def kind? : Append → Option Opcode
  | header _ _ _ kind _ => some kind
  | _ => none

/-- What a call appends if it fails with room for so many octets: nothing, or the type of a record,
or its type and its length. A length that does not fit its field fails at once. -/
def remnant (room : Nat) : Append → Octets
  | tlv type value =>
    if type = 0 ∨ 65536 ≤ value.length ∨ room < 1 then []
    else if room < 3 then [type]
    else type :: Octets.bigEndian 2 value.length
  | _ => []

/-- What a call makes of a frame of so many octets: what it appends, be it successful or not. -/
def contribution (c : Append) (length : Nat) : Octets :=
  if length + c.written.length ≤ maxFrameLength then c.written
  else c.remnant (maxFrameLength - length)

/-- What calls that follow each other append to a frame of so many octets. -/
def contributions : Nat → List Append → Octets
  | _, [] => []
  | length, c :: calls =>
    c.contribution length ++ contributions (length + (c.contribution length).length) calls

/-- What a call does to a frame, with its result: it appends everything if there is room for that,
and otherwise it is refused with a length above the limit. -/
inductive Effect (c : Append) (f : Frame) : Except Error Unit → Frame → Prop
  | appended {g : Frame} (room : f.octets.length + c.written.length ≤ maxFrameLength)
      (octets : g.octets = f.octets ++ c.written) (kind : g.kind = c.kind?.or f.kind) :
      Effect c f (.ok ()) g
  | refused {g : Frame} {length : Nat}
      (full : maxFrameLength < f.octets.length + c.written.length)
      (tooLong : maxFrameLength < length)
      (octets : g.octets = f.octets ++ c.remnant (maxFrameLength - f.octets.length))
      (kind : g.kind = f.kind) : Effect c f (.error (.frameTooLarge length maxFrameLength)) g

end Append

/-- A call with its result, and the frame that it leaves behind. -/
def perform (f : Frame) (c : Append) : Except Error Unit × Frame :=
  match c.edit f with
  | .ok _ g => (.ok (), g)
  | .error cause g => (.error cause, g)

/-- The frame after some calls, of which any may have failed. -/
def after (f : Frame) (calls : List Append) : Frame := calls.foldl (fun f c => (f.perform c).2) f

section Calls

variable {f g : Frame} {c : Append}

lemma perform_of_ok (h : c.edit f = .ok () g) : f.perform c = (.ok (), g) := by
  unfold perform
  rw [h]

lemma perform_of_error {cause : Error} (h : c.edit f = .error cause g) :
    f.perform c = (.error cause, g) := by
  unfold perform
  rw [h]

/-! ### Calls that succeed -/

lemma first_octet_eq (level version : UInt8) :
    ((writtenLevel level &&& 0x07) <<< 5) ||| (version &&& 0x1F) =
      UInt8.ofNat (32 * (if level.toNat ≤ 7 then level.toNat else 0) + version.toNat % 32) := by
  have hlevel : (writtenLevel level).toNat = if level.toNat ≤ 7 then level.toNat else 0 := by
    unfold writtenLevel
    by_cases h : level.toNat ≤ 7
    · rw [if_neg (UInt8.not_lt.2 (UInt8.le_iff_toNat_le.2 h)), if_pos h]
    · rw [if_pos (UInt8.lt_iff_toNat_lt.2 (Nat.lt_of_not_le h)), if_neg h]
      rfl
  have hle : (writtenLevel level).toNat ≤ 7 := UInt8.le_iff_toNat_le.1 (writtenLevel_le level)
  have hversion : version.toNat &&& 31 = version.toNat % 32 :=
    Nat.and_two_pow_sub_one_eq_mod version.toNat 5
  have hmod : version.toNat % 32 < 2 ^ 5 := Nat.mod_lt _ (by decide)
  rw [and_seven_of_le (writtenLevel_le level), ← hlevel]
  apply UInt8.toNat_inj.1
  rw [UInt8.toNat_or, UInt8.toNat_and, UInt8.toNat_shiftLeft, UInt8.toNat_ofNat']
  change (writtenLevel level).toNat <<< 5 % 256 ||| (version.toNat &&& 31) = _
  rw [hversion, Nat.shiftLeft_eq, Nat.mod_eq_of_lt (by omega), ← Nat.shiftLeft_eq,
    ← Nat.shiftLeft_add_eq_or_of_lt hmod, Nat.shiftLeft_eq]
  omega

lemma Append.header_written (level flags offset : UInt8) (kind : Opcode) (version : UInt8) :
    CfmHeader.octets ⟨writtenLevel level, version, kind.code, flags, offset⟩ =
      (Append.header level flags offset kind version).written := by
  unfold CfmHeader.octets
  dsimp only
  rw [first_octet_eq]
  rfl

lemma Append.appends_edit (c : Append) (h : c.written.length ≤ maxFrameLength) :
    Edit.Appends c.edit c.written c.kind? := by
  cases c with
  | put xs => exact appends_put xs
  | put8 n => exact appends_put [n]
  | put16 n =>
    change Edit.Appends (Frame.put (Octets.be16 n)) (Octets.bigEndian 2 n.toNat) none
    rw [← Octets.be16_eq_bigEndian]
    exact appends_put _
  | put32 n =>
    change Edit.Appends (Frame.put (Octets.be32 n)) (Octets.bigEndian 4 n.toNat) none
    rw [← Octets.be32_eq_bigEndian]
    exact appends_put _
  | header level flags offset kind version =>
    rw [← header_written]
    exact appends_addHeader level flags offset kind version
  | tlv type value =>
    by_cases ht : type = 0
    · subst ht
      exact appends_put [Tlv.endType]
    · have hw : (Append.tlv type value).written =
          type :: (Octets.bigEndian 2 value.length ++ value) := if_neg ht
      have hv : value.length < 65536 := by
        rw [hw, List.length_cons, List.length_append] at h
        unfold maxFrameLength at h
        omega
      rw [hw, ← Octets.be16_ofNat hv]
      exact appends_addTlv ht hv
  | endTlv => exact appends_addEndTlv

/-! ### Calls that fail -/

/-- The edit fails for want of room, and only appends `rest` before. -/
def Edit.Refused (e : Edit Unit) (f : Frame) (rest : Octets) : Prop :=
  ∃ length g, e f = .error (.frameTooLarge length maxFrameLength) g ∧ maxFrameLength < length ∧
    g.octets = f.octets ++ rest ∧ g.kind = f.kind

variable {e e' : Edit Unit} {xs rest : Octets}

lemma refused_put (h : maxFrameLength < f.octets.length + xs.length) : Edit.Refused (put xs) f [] :=
  ⟨_, f, dif_neg (Nat.not_le.2 h), h, (List.append_nil _).symm, rfl⟩

lemma Edit.Refused.bind (h : Refused e f rest) : Refused (e >>= fun _ => e') f rest := by
  obtain ⟨length, g, he, hg⟩ := h
  exact ⟨length, g, Edit.bind_error he, hg⟩

lemma Edit.Refused.behind (hx : f.octets.length + xs.length ≤ maxFrameLength)
    (h : Refused e' (f.extended xs none hx) rest) :
    Refused (put xs >>= fun _ => e') f (xs ++ rest) := by
  obtain ⟨length, g, he, hlength, hoctets, hkind⟩ := h
  refine ⟨length, g, ?_, hlength, hoctets.trans (List.append_assoc _ _ _), hkind⟩
  rw [Edit.bind_ok (appends_put xs f hx)]
  exact he

lemma addTlv_eq {type : UInt8} (ht : type ≠ 0) {value : Octets} (hv : value.length < 65536) :
    addTlv type value = (put [type] >>= fun _ =>
      put (Octets.bigEndian 2 value.length) >>= fun _ => put value) := by
  unfold addTlv put8 put16
  rw [if_neg (show type ≠ Tlv.endType from ht), if_pos hv, Octets.be16_ofNat hv]

/-- Of a record, the parts that still fit are left behind. -/
lemma refused_addTlv {type : UInt8} (ht : type ≠ 0) {value : Octets} (hv : value.length < 65536)
    (h : maxFrameLength < f.octets.length + (3 + value.length)) :
    Edit.Refused (addTlv type value) f
      ((Append.tlv type value).remnant (maxFrameLength - f.octets.length)) := by
  rw [addTlv_eq ht hv]
  unfold Append.remnant
  dsimp only
  by_cases h1 : f.octets.length + 1 ≤ maxFrameLength
  · rw [if_neg (not_or.2 ⟨ht, by omega⟩)]
    -- The frame has room for the type.
    let f₁ := f.extended [type] none h1
    have hf₁ : f₁.octets.length = f.octets.length + 1 := List.length_append
    by_cases h3 : f.octets.length + 3 ≤ maxFrameLength
    · have hlength : f₁.octets.length + (Octets.bigEndian 2 value.length).length ≤
          maxFrameLength := by
        rw [hf₁, Octets.length_bigEndian]
        exact h3
      have hvalue : maxFrameLength <
          (f₁.extended (Octets.bigEndian 2 value.length) none hlength).octets.length +
            value.length := by
        change maxFrameLength <
          (f₁.octets ++ Octets.bigEndian 2 value.length).length + value.length
        rw [List.length_append, hf₁, Octets.length_bigEndian]
        omega
      rw [if_neg (by omega)]
      have hrest := ((refused_put hvalue).behind hlength).behind h1
      rwa [List.append_nil] at hrest
    · have hlength : maxFrameLength <
          f₁.octets.length + (Octets.bigEndian 2 value.length).length := by
        rw [hf₁, Octets.length_bigEndian]
        omega
      rw [if_pos (by omega)]
      exact (refused_put hlength).bind.behind h1
  · rw [if_pos (.inr (.inr (by omega)))]
    exact (refused_put (Nat.lt_of_not_le h1)).bind

lemma Append.refused_edit (h : maxFrameLength < f.octets.length + c.written.length) :
    Edit.Refused c.edit f (c.remnant (maxFrameLength - f.octets.length)) := by
  cases c with
  | put xs => exact refused_put h
  | put8 n => exact refused_put h
  | put16 n => exact refused_put h
  | put32 n => exact refused_put h
  | header level flags offset kind version =>
    rw [← header_written] at h
    exact (refused_put h).bind
  | endTlv => exact refused_put h
  | tlv type value =>
    by_cases ht : type = 0
    · subst ht
      exact refused_put h
    have hw : (Append.tlv type value).written =
        type :: (Octets.bigEndian 2 value.length ++ value) := if_neg ht
    rw [hw, List.length_cons, List.length_append, Octets.length_bigEndian] at h
    by_cases hv : value.length < 65536
    · exact refused_addTlv ht hv (by omega)
    · -- Nothing is written in front of a value whose length has no field.
      have hlong : ¬ value.length ≤ maxFrameLength := by
        unfold maxFrameLength
        omega
      refine ⟨value.length, f, ?_, Nat.lt_of_not_le hlong, ?_, rfl⟩
      · change addTlv type value f = _
        unfold addTlv
        rw [if_neg (show type ≠ Tlv.endType from ht), if_neg hv]
        rfl
      · unfold remnant
        dsimp only
        rw [if_pos (.inr (.inl (Nat.le_of_not_lt hv))), List.append_nil]

/-! ### Runs -/

theorem effect_perform (f : Frame) (c : Append) :
    c.Effect f (f.perform c).1 (f.perform c).2 := by
  by_cases h : f.octets.length + c.written.length ≤ maxFrameLength
  · rw [perform_of_ok (c.appends_edit (by omega) f h)]
    exact .appended h rfl rfl
  · obtain ⟨length, g, he, hlength, hoctets, hkind⟩ :=
      Append.refused_edit (Nat.lt_of_not_le h)
    rw [perform_of_error he]
    exact .refused (Nat.lt_of_not_le h) hlength hoctets hkind

lemma Append.Effect.octets_eq {result : Except Error Unit} (h : c.Effect f result g) :
    g.octets = f.octets ++ c.contribution f.octets.length := by
  unfold contribution
  cases h with
  | appended room octets => rw [if_pos room, octets]
  | refused full _ octets => rw [if_neg (Nat.not_le.2 full), octets]

theorem octets_after (f : Frame) (calls : List Append) :
    (f.after calls).octets = f.octets ++ Append.contributions f.octets.length calls := by
  induction calls generalizing f with
  | nil => exact (List.append_nil _).symm
  | cons c calls ih =>
    change ((f.perform c).2.after calls).octets = _
    rw [ih, (effect_perform f c).octets_eq, List.length_append, List.append_assoc]
    rfl

end Calls

namespace Origin

variable {origin : Origin} {f : Frame}

lemma frame_eq_error_iff {cause : Error} : origin.frame = .error cause ↔
    ∃ xs, origin = .received xs ∧ maxFrameLength < xs.length ∧
      cause = .frameTooLarge xs.length maxFrameLength := by
  cases origin with
  | addresses destination source tag =>
    constructor
    · intro h
      cases h
    · rintro ⟨xs, hxs, -⟩
      cases hxs
  | received xs =>
    unfold frame ofOctets
    dsimp only
    split
    · next hl =>
      constructor
      · intro h
        cases h
      · rintro ⟨ys, hys, hlong, -⟩
        cases hys
        omega
    · next hl =>
      constructor
      · intro h
        exact ⟨xs, rfl, Nat.lt_of_not_le hl, (Except.error.inj h).symm⟩
      · rintro ⟨ys, hys, -, rfl⟩
        cases hys
        rfl

lemma of_frame (h : origin.frame = .ok f) : f.octets = origin.octets ∧ f.kind = none := by
  cases origin with
  | addresses destination source tag =>
    cases h
    exact ⟨rfl, rfl⟩
  | received xs =>
    unfold frame ofOctets at h
    dsimp only at h
    split at h
    · cases h
      exact ⟨rfl, rfl⟩
    · cases h

end Origin

/-- Only received octets can be too many for a frame. From any beginning and through any calls, a
frame holds what it began with and behind it what each call has contributed, never more than the
limit. The next call appends all that it has to say, or it is refused as too large and leaves at
most the type of a record, or its type and length; the kind changes only with a header that is
appended. -/
theorem built_by_appending (origin : Origin) :
    (∀ cause, origin.frame = .error cause ↔ ∃ xs, origin = .received xs ∧
      maxFrameLength < xs.length ∧ cause = .frameTooLarge xs.length maxFrameLength) ∧
    ∀ f₀, origin.frame = .ok f₀ → f₀.kind = none ∧ ∀ (calls : List Append) (call : Append),
      (f₀.after calls).octets =
        origin.octets ++ Append.contributions origin.octets.length calls ∧
      (f₀.after calls).octets.length ≤ maxFrameLength ∧
      call.Effect (f₀.after calls) ((f₀.after calls).perform call).1
        ((f₀.after calls).perform call).2 := by
  refine ⟨fun cause => Origin.frame_eq_error_iff, fun f₀ h => ?_⟩
  obtain ⟨hoctets, hkind⟩ := Origin.of_frame h
  refine ⟨hkind, fun calls call => ⟨?_, (f₀.after calls).length_le, effect_perform _ call⟩⟩
  rw [octets_after, hoctets]

/-- A record for which four octets are left leaves its type and its length, and the last octet can
still be filled. -/
theorem built_by_appending_fourLeft :
    ∃ f₀, (Origin.received (List.replicate 1512 0)).frame = .ok f₀ ∧
      (f₀.after [.tlv 2 [1, 2]]).octets = List.replicate 1512 0 ++ [2, 0, 2] ∧
      ((f₀.after [.tlv 2 [1, 2]]).perform (.put8 7)).1 = .ok () := by
  have hrest : Append.contributions 1512 [.tlv 2 [1, 2]] = [2, 0, 2] := by decide +kernel
  have hl : (List.replicate 1512 (0 : UInt8)).length ≤ maxFrameLength := by
    rw [List.length_replicate]
    decide
  let f₀ : Frame := ⟨List.replicate 1512 0, none, hl⟩
  have h : (Origin.received (List.replicate 1512 0)).frame = .ok f₀ := by
    unfold Origin.frame ofOctets
    exact dif_pos hl
  refine ⟨f₀, h, ?_⟩
  obtain ⟨hoctets, -, heffect⟩ :=
    ((built_by_appending (.received (List.replicate 1512 0))).2 f₀ h).2 [.tlv 2 [1, 2]] (.put8 7)
  change _ = List.replicate 1512 0 ++
    Append.contributions (List.replicate 1512 (0 : UInt8)).length [.tlv 2 [1, 2]] at hoctets
  rw [List.length_replicate, hrest] at hoctets
  have hlength : (f₀.after [.tlv 2 [1, 2]]).octets.length = 1515 := by
    rw [hoctets, List.length_append, List.length_replicate]
    rfl
  refine ⟨hoctets, ?_⟩
  generalize (f₀.after [.tlv 2 [1, 2]]).perform (.put8 7) = outcome at heffect ⊢
  obtain ⟨result, g⟩ := outcome
  cases heffect with
  | appended => rfl
  | refused full =>
    rw [hlength] at full
    exact absurd full (by decide)

end Frame
end RingContinuity
