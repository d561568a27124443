import RingContinuity.Proofs.LoopbackReplies
import RingContinuity.Proofs.ReceivedFrames
import RingContinuity.Proofs.TransparentChanges

/-!
# Answering in place

The answer to a loopback message is written over the message. `Loopback.Turned` says which octets
can be answered and what becomes of them, for frames of every EtherType, with a VLAN tag or without.
Every check comes before the first change and no change can fail behind the checks, so that a frame
that is not answered stays as it was.
-/

namespace RingContinuity

/-! ### Continuity group addresses -/

namespace MacAddress

lemma last_octet_iff (b : UInt8) :
    b &&& 0xF0 = 0x30 ↔ ∃ level : UInt8, b = 0x30 ||| (level &&& 0x0F) := by
  constructor
  · intro h
    refine ⟨b, ?_⟩
    rw [← h]
    apply UInt8.toBitVec_inj.1
    apply BitVec.eq_of_getLsbD_eq
    intro i hi
    interval_cases i <;> simp
  · rintro ⟨level, rfl⟩
    apply UInt8.toBitVec_inj.1
    apply BitVec.eq_of_getLsbD_eq
    intro i hi
    interval_cases i <;> simp

lemma isCfmGroup_iff (m : MacAddress) : m.isCfmGroup = true ↔ ∃ level, m = cfmGroup level := by
  obtain ⟨a, b, c, d, e, g⟩ := m
  simp only [isCfmGroup, cfmGroup, Bool.and_eq_true, beq_iff_eq, last_octet_iff, mk.injEq]
  constructor
  · rintro ⟨⟨⟨⟨⟨rfl, rfl⟩, rfl⟩, rfl⟩, rfl⟩, level, rfl⟩
    exact ⟨level, rfl, rfl, rfl, rfl, rfl, rfl⟩
  · rintro ⟨level, rfl, rfl, rfl, rfl, rfl, rfl⟩
    exact ⟨⟨⟨⟨⟨rfl, rfl⟩, rfl⟩, rfl⟩, rfl⟩, level, rfl⟩

end MacAddress

/-! ### Between the addresses and the common header -/

namespace Frame

/-- What may stand between the addresses and the common header: a type field, behind a VLAN tag if
the first word announces one. -/
inductive TypeFields : Octets → Prop
  | untagged {type : Octets} (length : type.length = 2) (other : type ≠ Octets.be16 etherTypeVlan) :
    TypeFields type
  | tagged {rest : Octets} (length : rest.length = 4) :
    TypeFields (Octets.be16 etherTypeVlan ++ rest)

section Addresses

variable {f : Frame} {d s : MacAddress} {types rest : Octets}

lemma addresses_of_source (hs : f.source = .ok s) :
    ∃ d : MacAddress, f.octets = d.octets ++ (s.octets ++ f.octets.drop 12) := by
  obtain ⟨h12, -⟩ := of_need hs
  obtain ⟨d, s', hf⟩ := drop_addresses h12
  obtain rfl : s' = s := Except.ok.inj ((source_of_addresses hf).symm.trans hs)
  exact ⟨d, hf⟩

lemma isTagged_of_addresses (hf : f.octets = d.octets ++ (s.octets ++ (types ++ rest))) :
    f.isTagged = true ↔ (types ++ rest).take 2 = Octets.be16 etherTypeVlan := by
  have hdrop : f.octets.drop 12 = types ++ rest := by
    rw [hf, ← List.append_assoc]
    rfl
  rw [isTagged_iff, hdrop]

lemma cfmOffset_of_types (ht : TypeFields types)
    (hf : f.octets = d.octets ++ (s.octets ++ (types ++ rest))) :
    f.cfmOffset = (d.octets ++ (s.octets ++ types)).length := by
  have htag := isTagged_of_addresses hf
  unfold cfmOffset
  cases ht with
  | untagged length other =>
    rw [List.take_left' length] at htag
    rw [if_neg (fun h => other (htag.1 h))]
    simp [length]
  | tagged length =>
    rw [List.append_assoc, List.take_left' (Octets.length_be16 _)] at htag
    rw [if_pos (htag.2 rfl)]
    simp [length]

/-- Wherever the common header starts, type fields stand in front of it. -/
lemma exists_types (hf : f.octets = d.octets ++ (s.octets ++ f.octets.drop 12))
    (hl : f.cfmOffset ≤ f.octets.length) :
    ∃ types, TypeFields types ∧
      f.octets = d.octets ++ (s.octets ++ (types ++ f.octets.drop f.cfmOffset)) := by
  have hsplit : ∀ n, 12 + n = f.cfmOffset →
      f.octets.drop 12 = (f.octets.drop 12).take n ++ f.octets.drop f.cfmOffset := by
    intro n hn
    rw [← hn, ← List.drop_drop, List.take_append_drop]
  -- The word behind the addresses decides how many octets there are.
  cases ht : f.isTagged with
  | false =>
    have hc : f.cfmOffset = 14 := by simp [cfmOffset, ht]
    refine ⟨(f.octets.drop 12).take 2, .untagged ?_ ?_, ?_⟩
    · rw [List.length_take, List.length_drop]
      omega
    · intro h
      simp [f.isTagged_iff.2 h] at ht
    · rw [← hsplit 2 hc.symm]
      exact hf
  | true =>
    have hc : f.cfmOffset = 18 := by simp [cfmOffset, ht]
    have htypes : (f.octets.drop 12).take 6 =
        Octets.be16 etherTypeVlan ++ ((f.octets.drop 12).drop 2).take 4 := by
      rw [← f.isTagged_iff.1 ht, ← List.take_add]
    refine ⟨(f.octets.drop 12).take 6, ?_, ?_⟩
    · rw [htypes]
      refine .tagged ?_
      rw [List.length_take, List.length_drop, List.length_drop]
      omega
    · rw [← hsplit 6 hc.symm]
      exact hf

end Addresses

section Header

variable {f : Frame} {d s : MacAddress} {types payload : Octets} {h : CfmHeader}

lemma cut_of_types (hf : f.octets = d.octets ++ (s.octets ++ (types ++ (h.octets ++ payload)))) :
    f.octets = (d.octets ++ (s.octets ++ types)) ++ (h.octets ++ payload) := by
  rw [hf]
  simp only [List.append_assoc]

lemma header_of_types (ht : TypeFields types) (hh : h.Fits)
    (hf : f.octets = d.octets ++ (s.octets ++ (types ++ (h.octets ++ payload)))) :
    f.header = .ok h :=
  header_of_offset (cut_of_types hf) (cfmOffset_of_types ht hf) hh

lemma opcode_of_header (hf : f.header = .ok h) : f.opcode = Opcode.ofCode h.opcode := by
  unfold opcode
  rw [hf]
  rfl

lemma setOpcode_of_types (ht : TypeFields types)
    (hf : f.octets = d.octets ++ (s.octets ++ (types ++ (h.octets ++ payload)))) (k : Opcode) :
    ∃ g, setOpcode k f = .ok () g ∧ g.kind = some k ∧ g.octets = d.octets ++ (s.octets ++
      (types ++ (({ h with opcode := k.code } : CfmHeader).octets ++ payload))) := by
  obtain ⟨g, hg, hk, ho⟩ := setOpcode_of_offset (cut_of_types hf) (cfmOffset_of_types ht hf) k
  refine ⟨g, hg, hk, ?_⟩
  rw [ho]
  simp only [List.append_assoc]

end Header
end Frame

namespace Loopback

variable {own : MacAddress} {f : Frame}

/-! ### What is answered, and how -/

/-- The first octets can be answered by the station `own`, and the second ones are the answer: the
message comes from no group address and goes to the station or a continuity group. The addresses and
the opcode are new in the answer; all else is that of the message. -/
inductive Turned (own : MacAddress) : Octets → Octets → Prop
  | mk {d s : MacAddress} {types : Octets} {h : CfmHeader} {payload : Octets}
      (source : s.isGroup = false) (destination : d = own ∨ ∃ level, d = MacAddress.cfmGroup level)
      (type_fields : Frame.TypeFields types) (fits : h.Fits)
      (opcode : h.opcode = Opcode.lbm.code) :
      Turned own (d.octets ++ (s.octets ++ (types ++ (h.octets ++ payload))))
        (s.octets ++ (own.octets ++
          (types ++ (({ h with opcode := Opcode.lbr.code } : CfmHeader).octets ++ payload))))

section Layout

variable {d s : MacAddress} {types payload : Octets} {h : CfmHeader}

lemma addressee_iff : (d.isCfmGroup || d = own) = true ↔
    d = own ∨ ∃ level, d = MacAddress.cfmGroup level := by
  rw [Bool.or_eq_true, MacAddress.isCfmGroup_iff, decide_eq_true_iff, or_comm]

lemma check_eq_ok (hf : f.octets = d.octets ++ (s.octets ++ (types ++ (h.octets ++ payload))))
    (hs : s.isGroup = false) (hd : d = own ∨ ∃ level, d = MacAddress.cfmGroup level)
    (ht : Frame.TypeFields types) (hh : h.Fits) (ho : h.opcode = Opcode.lbm.code) :
    check own f = .ok s := by
  have hk : f.opcode = .ok .lbm := by
    rw [Frame.opcode_of_header (Frame.header_of_types ht hh hf), ho]
    rfl
  rw [check_of_fields own (Frame.source_of_addresses hf) (Frame.destination_of_addresses hf) hk,
    hs, if_neg (by decide), if_pos (addressee_iff.2 hd)]

lemma of_check (hc : check own f = .ok s) : s.isGroup = false ∧
    ∃ (d : MacAddress) (types : Octets) (h : CfmHeader) (payload : Octets),
      (d = own ∨ ∃ level, d = MacAddress.cfmGroup level) ∧ Frame.TypeFields types ∧ h.Fits ∧
      h.opcode = Opcode.lbm.code ∧
      f.octets = d.octets ++ (s.octets ++ (types ++ (h.octets ++ payload))) := by
  unfold check at hc
  obtain ⟨source, hs, hc⟩ := ok_of_bind hc
  obtain ⟨hg, hc⟩ := ok_of_guard hc
  obtain ⟨destination, hd, hc⟩ := ok_of_bind hc
  obtain ⟨haddr, hc⟩ := ok_of_guard hc
  obtain ⟨k, hk, hc⟩ := ok_of_bind hc
  obtain ⟨hlbm, hc⟩ := ok_of_guard hc
  cases hc
  obtain rfl : k = .lbm := not_not.1 hlbm
  obtain ⟨d, hf⟩ := Frame.addresses_of_source hs
  obtain rfl : destination = d :=
    Except.ok.inj (hd.symm.trans (Frame.destination_of_addresses hf))
  obtain ⟨h, hh, hk⟩ := ok_of_bind (show (f.header >>= fun h => Opcode.ofCode h.opcode) = _ from hk)
  obtain ⟨hl, rfl⟩ := Frame.of_need hh
  obtain ⟨types, ht, hf⟩ := Frame.exists_types hf (by omega)
  rw [CfmHeader.drop_eq_octets hl] at hf
  rw [Bool.not_eq_true', Bool.not_eq_false] at haddr
  exact ⟨by simpa using hg, destination, types, _, _, addressee_iff.1 haddr, ht,
    CfmHeader.fits_readAt hl, Opcode.eq_code_of_ofCode hk, hf⟩

/-- Behind the checks no change fails. -/
lemma turn_eq (own : MacAddress)
    (hf : f.octets = d.octets ++ (s.octets ++ (types ++ (h.octets ++ payload))))
    (ht : Frame.TypeFields types) :
    ∃ g, turn own s f = .ok () g ∧ g.kind = some .lbr ∧ g.octets = s.octets ++ (own.octets ++
      (types ++ (({ h with opcode := Opcode.lbr.code } : CfmHeader).octets ++ payload))) := by
  obtain ⟨f₁, h₁, ho₁⟩ := Frame.setDestination_of_addresses hf s
  obtain ⟨f₂, h₂, ho₂⟩ := Frame.setSource_of_addresses ho₁ own
  obtain ⟨g, h₃, hk, ho₃⟩ := Frame.setOpcode_of_types ht ho₂ .lbr
  refine ⟨g, ?_, hk, ho₃⟩
  unfold turn
  rw [Frame.Edit.bind_ok h₁, Frame.Edit.bind_ok h₂, h₃]

end Layout

lemma answer_of_turned {ys : Octets} (h : Turned own f.octets ys) :
    ∃ g, answer own f = .ok () g ∧ g.octets = ys ∧ g.kind = some .lbr := by
  generalize hf : f.octets = xs at h
  cases h with
  | mk source destination type_fields fits opcode =>
    obtain ⟨g, hg, hk, ho⟩ := turn_eq own hf type_fields
    have ha := checks_answer own f
    unfold Checks at ha
    rw [check_eq_ok hf source destination type_fields fits opcode] at ha
    exact ⟨g, ha.trans hg, ho, hk⟩

/-- Answering turns the message round or changes nothing. -/
theorem answer_cases (own : MacAddress) (f : Frame) :
    (∃ g, answer own f = .ok () g ∧ Turned own f.octets g.octets ∧ g.kind = some .lbr) ∨
      ∃ cause, answer own f = .error cause f := by
  have ha := checks_answer own f
  unfold Checks at ha
  cases hc : check own f with
  | error cause =>
    rw [hc] at ha
    exact .inr ⟨cause, ha⟩
  | ok s =>
    obtain ⟨hs, d, types, h, payload, hd, ht, hh, ho, hf⟩ := of_check hc
    obtain ⟨g, hg, hk, hgo⟩ := turn_eq own hf ht
    rw [hc] at ha
    refine .inl ⟨g, ha.trans hg, ?_, hk⟩
    rw [hf, hgo]
    exact .mk hs hd ht hh ho

end Loopback

/-- A frame is answered if and only if its octets can be turned round, the answer is exactly the
turned octets and known to be a reply, and a frame that is not answered is left as it was. -/
theorem Loopback.turned_or_untouched (own : MacAddress) (f : Frame) :
    (∀ g, answer own f = .ok () g ↔ Turned own f.octets g.octets ∧ g.kind = some .lbr) ∧
    ((∃ g, answer own f = .ok () g) ↔ ∃ ys, Turned own f.octets ys) ∧
    ∀ cause g, answer own f = .error cause g → g = f := by
  refine ⟨fun g => ⟨fun h => ?_, fun ⟨h, hk⟩ => ?_⟩, ⟨fun ⟨g, h⟩ => ?_, fun ⟨ys, h⟩ => ?_⟩,
    fun cause g h => ?_⟩
  · rcases answer_cases own f with ⟨g', hg, ht, hk⟩ | ⟨cause, hc⟩
    · rw [h] at hg
      cases hg
      exact ⟨ht, hk⟩
    · simp [h] at hc
  · obtain ⟨g', hg, ho, hk'⟩ := answer_of_turned h
    have heq : g' = g := by
      cases g'
      cases g
      simp_all
    exact heq ▸ hg
  · rcases answer_cases own f with ⟨g', -, ht, -⟩ | ⟨cause, hc⟩
    · exact ⟨_, ht⟩
    · simp [h] at hc
  · obtain ⟨g, hg, -⟩ := answer_of_turned h
    exact ⟨g, hg⟩
  · rcases answer_cases own f with ⟨g', hg, -, -⟩ | ⟨cause', hc⟩
    · simp [h] at hg
    · rw [h] at hc
      cases hc
      rfl

end RingContinuity
