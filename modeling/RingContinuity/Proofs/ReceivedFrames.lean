import RingContinuity.Proofs.FrameLayout

/-!
# Received frames

A received frame is any string of octets. If it is taken for a message at all, its fields written
back to their places give the frame again, so that it has the layout of a frame that was built, and
what holds of every layout holds of every frame.
-/

namespace RingContinuity

/-! ### Fields written back -/

namespace Octets

lemma be16_word16 (hi lo : UInt8) : be16 (word16 hi lo) = [hi, lo] := by
  have hhi : (word16 hi lo >>> 8).toUInt8 = hi := by
    apply UInt8.toBitVec_inj.1
    apply BitVec.eq_of_getLsbD_eq
    intro i hi
    simp only [word16]
    interval_cases i <;> simp
  have hlo : (word16 hi lo).toUInt8 = lo := by
    apply UInt8.toBitVec_inj.1
    apply BitVec.eq_of_getLsbD_eq
    intro i hi
    simp only [word16]
    interval_cases i <;> simp
  unfold be16
  rw [hhi, hlo]

lemma drop_eq_be16 {xs : Octets} {off : Nat} (h : off + 2 ≤ xs.length) :
    xs.drop off = be16 (read16 xs off h) ++ xs.drop (off + 2) := by
  unfold read16
  rw [be16_word16, List.drop_eq_getElem_cons (by omega), List.drop_eq_getElem_cons (by omega)]
  rfl

end Octets

lemma MacAddress.drop_eq_octets {xs : Octets} {off : Nat} (h : off + 6 ≤ xs.length) :
    xs.drop off = (readAt xs off h).octets ++ xs.drop (off + 6) := by
  rw [List.drop_eq_getElem_cons (by omega), List.drop_eq_getElem_cons (by omega),
    List.drop_eq_getElem_cons (by omega), List.drop_eq_getElem_cons (by omega),
    List.drop_eq_getElem_cons (by omega), List.drop_eq_getElem_cons (by omega)]
  rfl

namespace VlanTag

/-- Masking a single bit leaves that bit or nothing. -/
lemma and_dropEligible (n : UInt16) :
    n &&& 0x1000 = if n.toBitVec.getLsbD 12 then 0x1000 else 0 := by
  apply UInt16.toBitVec_inj.1
  apply BitVec.eq_of_getLsbD_eq
  intro i hi
  cases hb : n.toBitVec.getLsbD 12 with
  | true => interval_cases i <;> simp_all
  | false => interval_cases i <;> simp_all

/-- No bit of the tag control information is lost. -/
theorem tci_ofTci (n : UInt16) : (ofTci n).tci = n := by
  have hd : (if (n &&& 0x1000 != 0) = true then (0x1000 : UInt16) else 0) = n &&& 0x1000 := by
    rw [and_dropEligible]
    cases n.toBitVec.getLsbD 12 <;> rfl
  unfold tci ofTci
  dsimp only
  rw [hd]
  apply UInt16.toBitVec_inj.1
  apply BitVec.eq_of_getLsbD_eq
  intro i hi
  simp only [UInt16.toBitVec_or, UInt16.toBitVec_shiftLeft, UInt8.toBitVec_toUInt16,
    UInt8.toBitVec_and, UInt16.toBitVec_toUInt8, UInt16.toBitVec_shiftRight, BitVec.getLsbD_or]
  interval_cases i <;> simp [-BitVec.setWidth_setWidth]

end VlanTag

namespace CfmHeader

lemma first_octet (b : UInt8) : (((b >>> 5) &&& 0x07) <<< 5) ||| ((b &&& 0x1F) &&& 0x1F) = b := by
  apply UInt8.toBitVec_inj.1
  apply BitVec.eq_of_getLsbD_eq
  intro i hi
  interval_cases i <;> simp

variable {xs : Octets} {off : Nat} (h : off + 3 < xs.length)

lemma fits_readAt : (readAt xs off h).Fits := by
  have hl : ∀ b : UInt8, (b >>> 5) &&& (0x07 : UInt8) = b >>> 5 := by
    intro b
    apply UInt8.toBitVec_inj.1
    apply BitVec.eq_of_getLsbD_eq
    intro i hi
    interval_cases i <;> simp
  have hv : ∀ b : UInt8, (b &&& 0x1F) &&& 0x1F = b &&& 0x1F := by
    intro b
    rw [UInt8.and_assoc]
    rfl
  exact ⟨hl _, hv _⟩

lemma drop_eq_octets : xs.drop off = (readAt xs off h).octets ++ xs.drop (off + size) := by
  unfold octets readAt
  rw [first_octet, List.drop_eq_getElem_cons (by omega), List.drop_eq_getElem_cons (by omega),
    List.drop_eq_getElem_cons (by omega), List.drop_eq_getElem_cons (by omega)]
  rfl

end CfmHeader

lemma Opcode.eq_code_of_ofCode {octet : UInt8} {k : Opcode} (h : ofCode octet = .ok k) :
    octet = k.code := by
  apply UInt8.toNat_inj.1
  unfold ofCode at h
  split at h <;> cases h <;> assumption

/-! ### The layout of a message -/

namespace Frame

variable {f : Frame}

lemma of_need {α : Type} {n : Nat} {field : FrameField} {read : n ≤ f.octets.length → α} {a : α}
    (h : f.need n field read = .ok a) : ∃ hn, read hn = a := by
  unfold need at h
  split at h
  · next hn => exact ⟨hn, Except.ok.inj h⟩
  · exact nomatch h

lemma eq_some_of_toOption {α : Type} {x : Except Error α} {a : α} (h : x.toOption = some a) :
    x = .ok a := by
  cases x with
  | error cause => exact nomatch h
  | ok b => rw [Option.some.inj h]

lemma drop_of_word16At {off : Nat} {n : UInt16} (h : f.word16At off = .ok n) :
    off + 2 ≤ f.octets.length ∧ f.octets.drop off = Octets.be16 n ++ f.octets.drop (off + 2) := by
  obtain ⟨hl, hr⟩ := of_need h
  exact ⟨hl, hr ▸ Octets.drop_eq_be16 hl⟩

lemma drop_addresses {f : Frame} (h : 12 ≤ f.octets.length) :
    ∃ d s : MacAddress, f.octets = d.octets ++ (s.octets ++ f.octets.drop 12) := by
  have h6 : 0 + 6 ≤ f.octets.length := by omega
  refine ⟨MacAddress.readAt f.octets 0 h6, MacAddress.readAt f.octets 6 h, ?_⟩
  rw [← MacAddress.drop_eq_octets h]
  exact MacAddress.drop_eq_octets h6

/-- A frame that carries a message at all has an Ethernet header. -/
theorem exists_ethernetHeader (h : f.isCfm = true) :
    ∃ d s tag, f.octets = ethernetHeader d s tag ++ f.octets.drop f.cfmOffset := by
  have htype : f.etherType = .ok etherTypeCfm := eq_some_of_toOption (eq_of_beq h)
  unfold etherType at htype
  unfold cfmOffset
  cases ht : f.isTagged with
  | false =>
    rw [ht, if_neg (by decide)] at htype
    obtain ⟨hl, hcfm⟩ := drop_of_word16At htype
    obtain ⟨d, s, hf⟩ := drop_addresses (by omega : 12 ≤ f.octets.length)
    refine ⟨d, s, none, hf.trans ?_⟩
    rw [if_neg (by decide), hcfm]
    simp only [ethernetHeader, List.append_assoc, List.nil_append]
  | true =>
    have hvlan : f.word16At 12 = .ok etherTypeVlan := eq_some_of_toOption (eq_of_beq ht)
    rw [ht, if_pos rfl] at htype
    obtain ⟨hl, hv⟩ := drop_of_word16At hvlan
    obtain ⟨hl', hcfm⟩ := drop_of_word16At htype
    have hl14 : 14 + 2 ≤ f.octets.length := by omega
    have htci := Octets.drop_eq_be16 hl14
    obtain ⟨d, s, hf⟩ := drop_addresses (by omega : 12 ≤ f.octets.length)
    refine ⟨d, s, some (VlanTag.ofTci (Octets.read16 f.octets 14 hl14)), hf.trans ?_⟩
    rw [if_pos rfl, hv, htci, hcfm]
    simp only [ethernetHeader, VlanTag.tci_ofTci, List.append_assoc]

/-- A frame with a common header has the layout of a message. -/
theorem exists_layout (hcfm : f.isCfm = true) {h : CfmHeader} (hh : f.header = .ok h) :
    h.Fits ∧ ∃ d s tag payload,
      f.octets = ethernetHeader d s tag ++ (h.octets ++ payload) := by
  obtain ⟨hl, rfl⟩ := of_need hh
  obtain ⟨d, s, tag, hf⟩ := exists_ethernetHeader hcfm
  refine ⟨CfmHeader.fits_readAt hl, d, s, tag, f.octets.drop (f.cfmOffset + CfmHeader.size), ?_⟩
  rw [← CfmHeader.drop_eq_octets hl]
  exact hf

/-- A message whose kind is known has the code of this kind in its header. -/
theorem exists_layout_of_opcode (hcfm : f.isCfm = true) {k : Opcode} (hk : f.opcode = .ok k) :
    ∃ d s tag payload, ∃ h : CfmHeader, h.Fits ∧ h.opcode = k.code ∧
      f.octets = ethernetHeader d s tag ++ (h.octets ++ payload) := by
  unfold opcode at hk
  cases hh : f.header with
  | error cause =>
    rw [hh] at hk
    exact nomatch hk
  | ok h =>
    rw [hh] at hk
    obtain ⟨hfits, d, s, tag, payload, hf⟩ := exists_layout hcfm hh
    exact ⟨d, s, tag, payload, h, hfits, Opcode.eq_code_of_ofCode hk, hf⟩

end Frame
end RingContinuity
