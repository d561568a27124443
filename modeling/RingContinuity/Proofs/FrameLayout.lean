import RingContinuity.Frame.Overwrite
import RingContinuity.Padding
import Mathlib.Tactic.IntervalCases
import Mathlib.Tactic.Lemma

/-!
# The layout of a frame

What the readers find in a frame that consists of an Ethernet header, a common header and a payload,
tagged or not, and what overwriting a field makes of it. Padding only adds to the payload, so
that everything here holds of the frame on the link as well.
-/

namespace RingContinuity

/-! ### Words -/

namespace Octets

theorem word16_be16 (n : UInt16) : word16 (n >>> 8).toUInt8 n.toUInt8 = n := by
  apply UInt16.toBitVec_inj.1
  apply BitVec.eq_of_getLsbD_eq
  intro i hi
  simp only [word16, UInt16.toBitVec_or, UInt16.toBitVec_shiftLeft, UInt8.toBitVec_toUInt16,
    UInt16.toBitVec_toUInt8, UInt16.toBitVec_shiftRight, BitVec.getLsbD_or]
  interval_cases i <;> simp [-BitVec.setWidth_setWidth]

theorem word32_be32 (n : UInt32) :
    word32 (n >>> 24).toUInt8 (n >>> 16).toUInt8 (n >>> 8).toUInt8 n.toUInt8 = n := by
  apply UInt32.toBitVec_inj.1
  apply BitVec.eq_of_getLsbD_eq
  intro i hi
  simp only [word32, UInt32.toBitVec_or, UInt32.toBitVec_shiftLeft, UInt8.toBitVec_toUInt32,
    UInt32.toBitVec_toUInt8, UInt32.toBitVec_shiftRight, BitVec.getLsbD_or]
  interval_cases i <;> simp [-BitVec.setWidth_setWidth]

end Octets

namespace CfmHeader

lemma level_octet (a b : UInt8) : (((a &&& 0x07) <<< 5) ||| (b &&& 0x1F)) >>> 5 = a &&& 0x07 := by
  apply UInt8.toBitVec_inj.1
  apply BitVec.eq_of_getLsbD_eq
  intro i hi
  interval_cases i <;> simp

lemma version_octet (a b : UInt8) :
    (((a &&& 0x07) <<< 5) ||| (b &&& 0x1F)) &&& 0x1F = b &&& 0x1F := by
  apply UInt8.toBitVec_inj.1
  apply BitVec.eq_of_getLsbD_eq
  intro i hi
  interval_cases i <;> simp

/-- A header whose level and version fit into their bits. -/
structure Fits (h : CfmHeader) : Prop where
  level : h.level &&& 0x07 = h.level
  version : h.version &&& 0x1F = h.version

end CfmHeader

lemma and_seven_of_le {n : UInt8} (h : n ≤ maxLevel) : n &&& 0x07 = n := by
  have hn : n.toNat ≤ 7 := UInt8.le_iff_toNat_le.1 h
  have hand : n.toNat &&& 7 = n.toNat % 8 := Nat.and_two_pow_sub_one_eq_mod n.toNat 3
  apply UInt8.toNat_inj.1
  rw [UInt8.toNat_and]
  change n.toNat &&& 7 = n.toNat
  omega

theorem VlanTag.vid_ofTci_tci {vid : UInt16} {t : VlanTag} (h : ofVid vid = .ok t) :
    (ofTci t.tci).vid = vid := by
  unfold ofVid at h
  split_ifs at h with hv
  cases h
  have hle : vid.toNat ≤ 4094 := by
    have hn : ¬ maxVlanId < vid := fun hlt => hv (.inr hlt)
    rw [UInt16.lt_iff_toNat_lt] at hn
    exact Nat.not_lt.1 hn
  have hand : ∀ n : Nat, n &&& 4095 = n % 4096 := fun n => Nat.and_two_pow_sub_one_eq_mod n 12
  apply UInt16.toNat_inj.1
  simp only [ofTci, tci, UInt16.toNat_and, UInt16.toNat_or]
  simp [hand]
  omega

namespace Frame

lemma need_of_le {α : Type} {f : Frame} {n : Nat} (h : n ≤ f.octets.length) (field : FrameField)
    (read : n ≤ f.octets.length → α) : f.need n field read = .ok (read h) := dif_pos h

/-! ### Behind the addresses -/

section Addresses

variable {f : Frame} {d s : MacAddress} {rest : Octets}

lemma destination_of_addresses (hf : f.octets = d.octets ++ (s.octets ++ rest)) :
    f.destination = .ok d := by
  have h6 : 6 ≤ f.octets.length := by simp [hf]
  unfold destination
  rw [need_of_le h6]
  simp only [hf]
  rfl

lemma source_of_addresses (hf : f.octets = d.octets ++ (s.octets ++ rest)) :
    f.source = .ok s := by
  have h12 : 12 ≤ f.octets.length := by
    simp [hf]
    omega
  unfold source
  rw [need_of_le h12]
  simp only [hf]
  rfl

lemma ethernetHeader_eq (tag : Option VlanTag) :
    ∃ types, ∀ d s, ethernetHeader d s tag = d.octets ++ (s.octets ++ types) := by
  cases tag with
  | none => exact ⟨Octets.be16 etherTypeCfm, fun _ _ => rfl⟩
  | some t =>
    exact ⟨Octets.be16 etherTypeVlan ++ (Octets.be16 t.tci ++ Octets.be16 etherTypeCfm),
      fun _ _ => rfl⟩

end Addresses

/-! ### Behind an Ethernet header -/

section Ethernet

variable {f : Frame} {d s : MacAddress} {tag : Option VlanTag} {rest : Octets}

lemma length_ethernetHeader (d s : MacAddress) (tag : Option VlanTag) :
    (ethernetHeader d s tag).length = if tag.isSome then 18 else 14 := by
  cases tag <;> rfl

lemma le_length (hf : f.octets = ethernetHeader d s tag ++ rest) :
    (if tag.isSome then 18 else 14) + rest.length ≤ f.octets.length := by
  rw [hf, List.length_append, length_ethernetHeader]

lemma read16_outerType (h : 12 + 2 ≤ (ethernetHeader d s tag ++ rest).length) :
    Octets.read16 (ethernetHeader d s tag ++ rest) 12 h =
      if tag.isSome then etherTypeVlan else etherTypeCfm := by
  cases tag with
  | none => exact Octets.word16_be16 etherTypeCfm
  | some t => exact Octets.word16_be16 etherTypeVlan

lemma isTagged_eq (hf : f.octets = ethernetHeader d s tag ++ rest) : f.isTagged = tag.isSome := by
  have hl := le_length hf
  have h14 : 12 + 2 ≤ f.octets.length := by
    split at hl <;> omega
  unfold isTagged word16At
  rw [need_of_le h14]
  simp only [hf, read16_outerType]
  cases tag <;> rfl

lemma cfmOffset_eq (hf : f.octets = ethernetHeader d s tag ++ rest) :
    f.cfmOffset = (ethernetHeader d s tag).length := by
  unfold cfmOffset
  rw [isTagged_eq hf, length_ethernetHeader]

lemma vlan?_eq (hf : f.octets = ethernetHeader d s tag ++ rest) :
    f.vlan? = tag.map fun t => VlanTag.ofTci t.tci := by
  have hl := le_length hf
  unfold vlan?
  rw [isTagged_eq hf]
  cases tag with
  | none => rfl
  | some t =>
    have h16 : 14 + 2 ≤ f.octets.length := by
      simp only [Option.isSome_some, if_true] at hl
      omega
    have hr : Octets.read16 f.octets 14 h16 = t.tci := by
      simp only [hf]
      exact Octets.word16_be16 t.tci
    unfold word16At
    rw [need_of_le h16, hr]
    rfl

lemma isCfm_eq (hf : f.octets = ethernetHeader d s tag ++ rest) : f.isCfm = true := by
  have hl := le_length hf
  have ht : f.etherType = .ok etherTypeCfm := by
    unfold etherType word16At
    rw [isTagged_eq hf]
    cases tag with
    | none =>
      have h14 : 12 + 2 ≤ f.octets.length := by
        simp only [Option.isSome_none, Bool.false_eq_true, if_false] at hl
        omega
      have hr : Octets.read16 f.octets 12 h14 = etherTypeCfm := by
        simp only [hf]
        exact Octets.word16_be16 etherTypeCfm
      rw [← hr]
      exact need_of_le h14 ..
    | some t =>
      have h18 : 16 + 2 ≤ f.octets.length := by
        simp only [Option.isSome_some, if_true] at hl
        omega
      have hr : Octets.read16 f.octets 16 h18 = etherTypeCfm := by
        simp only [hf]
        exact Octets.word16_be16 etherTypeCfm
      rw [← hr]
      exact need_of_le h18 ..
  unfold isCfm
  rw [ht]
  decide

lemma destination_eq (hf : f.octets = ethernetHeader d s tag ++ rest) :
    f.destination = .ok d := by
  obtain ⟨types, ht⟩ := ethernetHeader_eq tag
  rw [ht, List.append_assoc, List.append_assoc] at hf
  exact destination_of_addresses hf

lemma source_eq (hf : f.octets = ethernetHeader d s tag ++ rest) : f.source = .ok s := by
  obtain ⟨types, ht⟩ := ethernetHeader_eq tag
  rw [ht, List.append_assoc, List.append_assoc] at hf
  exact source_of_addresses hf

end Ethernet

/-! ### Overwriting a field -/

/-- Writing a field over another one of the same length leaves the rest as it was. -/
lemma writeAt_eq {f : Frame} {before field after : Octets} (hf : f.octets = before ++ (field ++ after))
    (field' : Octets) (hl : field'.length = field.length) (name : FrameField) :
    ∃ f', writeAt before.length field' name f = .ok () f' ∧ f'.kind = f.kind ∧
      f'.octets = before ++ (field' ++ after) := by
  have hle : before.length + field'.length ≤ f.octets.length := by
    rw [hf, List.length_append, List.length_append, hl]
    omega
  let f' : Frame := { f with
    octets := Octets.overwrite f.octets before.length field'
    length_le := by rw [Octets.length_overwrite hle]; exact f.length_le }
  refine ⟨f', dif_pos hle, rfl, ?_⟩
  change Octets.overwrite f.octets before.length field' = _
  unfold Octets.overwrite
  rw [hf, List.take_left, hl, ← List.length_append, ← List.append_assoc before field after,
    List.drop_left, List.append_assoc]

lemma Edit.bind_ok {α β : Type} {e : Edit α} {k : α → Edit β} {f f' : Frame} {a : α}
    (h : e f = .ok a f') : (e >>= k) f = k a f' := by
  change EStateM.bind e k f = _
  unfold EStateM.bind
  rw [h]

lemma Edit.bind_error {α β : Type} {e : Edit α} {k : α → Edit β} {f f' : Frame} {cause : Error}
    (h : e f = .error cause f') : (e >>= k) f = .error cause f' := by
  change EStateM.bind e k f = _
  unfold EStateM.bind
  rw [h]

section Edited

variable {α : Type} (f : Frame)

lemma edited_bind (e e' : Edit Unit) :
    f.edited (e >>= fun _ => e') = (f.edited e >>= fun g => g.edited e') := by
  have hb : (e >>= fun _ => e') f = EStateM.bind e (fun _ => e') f := rfl
  unfold edited EStateM.run
  rw [hb]
  unfold EStateM.bind
  cases e f <;> rfl

lemma edited_get (e : Frame → Edit Unit) : f.edited (get >>= e) = f.edited (e f) := rfl

lemma edited_ofExcept (x : Except Error α) (e : α → Edit Unit) :
    f.edited (MonadExcept.ofExcept x >>= e) = (x >>= fun a => f.edited (e a)) := by
  cases x <;> rfl

lemma edited_guard {p : Prop} [Decidable p] (cause : Error) (k : α → Edit Unit) (e : Edit Unit) :
    f.edited (if p then (throw cause >>= k) else e) =
      if p then (throw cause >>= fun a => f.edited (k a)) else f.edited e := by
  split <;> rfl

end Edited

section NewAddresses

variable {f : Frame} {d s : MacAddress} {tag : Option VlanTag} {rest : Octets}

lemma setDestination_of_addresses (hf : f.octets = d.octets ++ (s.octets ++ rest))
    (m : MacAddress) :
    ∃ f', setDestination m f = .ok () f' ∧ f'.octets = m.octets ++ (s.octets ++ rest) := by
  rw [← List.nil_append (d.octets ++ _)] at hf
  obtain ⟨f', hw, -, ho⟩ := writeAt_eq hf m.octets rfl .destination
  exact ⟨f', hw, ho⟩

lemma setSource_of_addresses (hf : f.octets = d.octets ++ (s.octets ++ rest)) (m : MacAddress) :
    ∃ f', setSource m f = .ok () f' ∧ f'.octets = d.octets ++ (m.octets ++ rest) := by
  obtain ⟨f', hw, -, ho⟩ := writeAt_eq hf m.octets rfl .source
  exact ⟨f', hw, ho⟩

lemma setDestination_eq (hf : f.octets = ethernetHeader d s tag ++ rest) (m : MacAddress) :
    ∃ f', setDestination m f = .ok () f' ∧ f'.octets = ethernetHeader m s tag ++ rest := by
  obtain ⟨types, ht⟩ := ethernetHeader_eq tag
  rw [ht, List.append_assoc, List.append_assoc] at hf
  rw [ht, List.append_assoc, List.append_assoc]
  exact setDestination_of_addresses hf m

lemma setSource_eq (hf : f.octets = ethernetHeader d s tag ++ rest) (m : MacAddress) :
    ∃ f', setSource m f = .ok () f' ∧ f'.octets = ethernetHeader d m tag ++ rest := by
  obtain ⟨types, ht⟩ := ethernetHeader_eq tag
  rw [ht, List.append_assoc, List.append_assoc] at hf
  rw [ht, List.append_assoc, List.append_assoc]
  exact setSource_of_addresses hf m

end NewAddresses

/-! ### At the offset of the common header -/

section Offset

variable {f : Frame} {before payload : Octets} {h : CfmHeader}

lemma header_of_offset (hf : f.octets = before ++ (h.octets ++ payload))
    (hoff : f.cfmOffset = before.length) (hh : h.Fits) : f.header = .ok h := by
  have hle : f.cfmOffset + CfmHeader.size ≤ f.octets.length := by
    simp only [hf, hoff, List.length_append, CfmHeader.length_octets]
    omega
  have hr : CfmHeader.readAt f.octets f.cfmOffset hle =
      ⟨(((h.level &&& 0x07) <<< 5) ||| (h.version &&& 0x1F)) >>> 5,
        (((h.level &&& 0x07) <<< 5) ||| (h.version &&& 0x1F)) &&& 0x1F,
        h.opcode, h.flags, h.firstTlvOffset⟩ := by
    simp [CfmHeader.readAt, CfmHeader.octets, hf, hoff]
  unfold header
  rw [need_of_le hle, hr, CfmHeader.level_octet, CfmHeader.version_octet, hh.level, hh.version]

lemma setOpcode_of_offset (hf : f.octets = before ++ (h.octets ++ payload))
    (hoff : f.cfmOffset = before.length) (k : Opcode) :
    ∃ f', setOpcode k f = .ok () f' ∧ f'.kind = some k ∧
      f'.octets = before ++ (({ h with opcode := k.code } : CfmHeader).octets ++ payload) := by
  let first := ((h.level &&& 0x07) <<< 5) ||| (h.version &&& 0x1F)
  have hcut : f.octets = (before ++ [first]) ++
      ([h.opcode] ++ ([h.flags, h.firstTlvOffset] ++ payload)) := by
    rw [hf, List.append_assoc]
    rfl
  have hfirst : (before ++ [first]).length = f.cfmOffset + 1 := by simp [hoff]
  obtain ⟨f', hw, -, ho⟩ := writeAt_eq hcut [k.code] rfl .opcode
  rw [hfirst] at hw
  refine ⟨{ f' with kind := some k }, ?_, rfl, ?_⟩
  · change (writeAt (f.cfmOffset + 1) [k.code] .opcode >>= fun _ => setKind k) f = _
    rw [Edit.bind_ok hw]
    rfl
  · change f'.octets = _
    rw [ho, List.append_assoc]
    rfl

end Offset

/-! ### Behind the common header -/

section Message

variable {f : Frame} {d s : MacAddress} {tag : Option VlanTag} {h : CfmHeader} {payload : Octets}

lemma payloadOffset_eq (hf : f.octets = ethernetHeader d s tag ++ (h.octets ++ payload)) :
    f.payloadOffset = (ethernetHeader d s tag ++ h.octets).length := by
  unfold payloadOffset
  rw [cfmOffset_eq hf, List.length_append, CfmHeader.length_octets]

lemma payloadOffset_le (hf : f.octets = ethernetHeader d s tag ++ (h.octets ++ payload)) :
    f.payloadOffset + payload.length = f.octets.length := by
  rw [payloadOffset_eq hf, hf]
  simp only [List.length_append]
  omega

theorem header_eq (hf : f.octets = ethernetHeader d s tag ++ (h.octets ++ payload))
    (hh : h.Fits) : f.header = .ok h := header_of_offset hf (cfmOffset_eq hf) hh

lemma opcode_eq (hf : f.octets = ethernetHeader d s tag ++ (h.octets ++ payload))
    (hh : h.Fits) : f.opcode = Opcode.ofCode h.opcode := by
  unfold opcode
  rw [header_eq hf hh]
  rfl

theorem payload_eq (hf : f.octets = ethernetHeader d s tag ++ (h.octets ++ payload)) :
    f.payload = .ok payload := by
  have hl := payloadOffset_le hf
  have hle : f.payloadOffset ≤ f.octets.length := by omega
  unfold Frame.payload
  rw [need_of_le hle, payloadOffset_eq hf, hf, ← List.append_assoc, List.drop_left]

/-- The records start as far behind the common header as it says. -/
theorem tlvOctets_eq {fixed records : Octets}
    (hf : f.octets = ethernetHeader d s tag ++ (h.octets ++ (fixed ++ records)))
    (hh : h.Fits) (hx : fixed.length = h.firstTlvOffset.toNat) : f.tlvOctets = .ok records := by
  have hl := payloadOffset_le hf
  have hle : f.payloadOffset + h.firstTlvOffset.toNat ≤ f.octets.length := by
    rw [List.length_append] at hl
    omega
  unfold tlvOctets
  rw [header_eq hf hh]
  change f.need (f.payloadOffset + h.firstTlvOffset.toNat) .firstTlv _ = _
  rw [need_of_le hle, ← hx, payloadOffset_eq hf, hf, ← List.append_assoc, ← List.append_assoc,
    ← List.length_append, List.drop_left]

theorem transactionId_eq {id : UInt32}
    (hf : f.octets = ethernetHeader d s tag ++ (h.octets ++ (Octets.be32 id ++ payload))) :
    f.transactionId = .ok id := by
  have hl := payloadOffset_le hf
  have hle : f.payloadOffset + 4 ≤ f.octets.length := by
    rw [List.length_append, Octets.length_be32] at hl
    omega
  have hr : Octets.read32 f.octets f.payloadOffset hle = id := by
    simp only [hf, payloadOffset_eq hf]
    cases tag <;> exact Octets.word32_be32 id
  unfold transactionId word32At
  rw [need_of_le hle, hr]

/-- Stamping replaces the first word of the payload. -/
theorem edited_setTransactionId {id : UInt32} (id' : UInt32)
    (hf : f.octets = ethernetHeader d s tag ++ (h.octets ++ (Octets.be32 id ++ payload))) :
    ∃ f', f.edited (setTransactionId id') = .ok f' ∧ f'.kind = f.kind ∧
      f'.octets = ethernetHeader d s tag ++ (h.octets ++ (Octets.be32 id' ++ payload)) := by
  rw [← List.append_assoc] at hf
  obtain ⟨f', hw, hk, ho⟩ := writeAt_eq hf (Octets.be32 id') rfl .transactionId
  refine ⟨f', ?_, hk, by rw [ho, List.append_assoc]⟩
  have hs : setTransactionId id' f = .ok () f' := by
    rw [← payloadOffset_eq (by rw [hf, List.append_assoc])] at hw
    exact hw
  unfold edited EStateM.run
  rw [hs]

lemma setOpcode_eq (hf : f.octets = ethernetHeader d s tag ++ (h.octets ++ payload)) (k : Opcode) :
    ∃ f', setOpcode k f = .ok () f' ∧ f'.octets =
      ethernetHeader d s tag ++ (({ h with opcode := k.code } : CfmHeader).octets ++ payload) := by
  obtain ⟨f', hf', -, ho⟩ := setOpcode_of_offset hf (cfmOffset_eq hf) k
  exact ⟨f', hf', ho⟩

end Message

/-! ### On the link -/

/-- What a link delivers is decoded as one frame. -/
theorem decode_onLink (f : Frame) :
    ∃ g, (decode f.onLink).1 = .ok (some g) ∧
      g.octets = f.octets ++ List.replicate (minFrameLength - f.octets.length) 0 := by
  have hl : f.onLink.length ≤ maxFrameLength := by
    have := f.length_le
    unfold onLink
    rw [length_padded]
    unfold minFrameLength maxFrameLength at *
    omega
  have hne : f.onLink ≠ [] := by
    intro h
    have hlen : f.onLink.length = max minFrameLength f.octets.length := length_padded f.octets
    rw [h] at hlen
    unfold minFrameLength at hlen
    simp only [List.length_nil] at hlen
    omega
  refine ⟨⟨f.onLink, none, hl⟩, ?_, rfl⟩
  unfold decode ofOctets
  rw [if_neg hne, dif_pos hl]
  rfl

/-- The zeros behind a message only add to its payload. -/
theorem exists_received {f : Frame} {d s : MacAddress} {tag : Option VlanTag} {h : CfmHeader}
    {payload : Octets} (hf : f.octets = ethernetHeader d s tag ++ (h.octets ++ payload)) :
    ∃ g pad, (decode f.onLink).1 = .ok (some g) ∧
      g.octets = ethernetHeader d s tag ++ (h.octets ++ (payload ++ pad)) := by
  obtain ⟨g, hg, ho⟩ := f.decode_onLink
  refine ⟨g, List.replicate (minFrameLength - f.octets.length) 0, hg, ?_⟩
  rw [ho]
  nth_rewrite 1 [hf]
  rw [List.append_assoc, List.append_assoc]

end Frame
end RingContinuity
