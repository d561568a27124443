import RingContinuity.Proofs.CcmReception
import RingContinuity.Proofs.RecordWalk
import Mathlib.Data.List.Induction

/-!
# The grammar of continuity checks

`Ccm.Denotes` says which octets are a continuity check and what they tell, without any reader. The
parser accepts exactly these. What it refuses is either for somebody else, which shows in the
Ethernet header and the common header alone, or malformed.
-/

namespace RingContinuity

namespace Octets

lemma be32_word32 (a b c d : UInt8) : be32 (word32 a b c d) = [a, b, c, d] := by
  simp only [be32, List.cons.injEq, and_true]
  refine ⟨?_, ?_, ?_, ?_⟩ <;>
  · apply UInt8.toBitVec_inj.1
    apply BitVec.eq_of_getLsbD_eq
    intro i hi
    simp only [word32]
    interval_cases i <;> simp

lemma eq_be32 {xs : Octets} (h : 0 + 4 ≤ xs.length) : xs = be32 (read32 xs 0 h) ++ xs.drop 4 := by
  match xs, h with
  | a :: b :: c :: d :: rest, _ => exact congrArg (· ++ rest) (be32_word32 a b c d).symm

lemma drop_eq_slice {xs : Octets} {off n : Nat} (h : off + n ≤ xs.length) :
    xs.drop off = slice xs off n h ++ xs.drop (off + n) := by
  rw [← List.drop_drop]
  exact (List.take_append_drop n (xs.drop off)).symm

end Octets

/-! ### The record that counts -/

namespace Tlv

/-- The first octet of the last record of a type, if there is such a record and it is not empty. -/
inductive LastOctet (type : UInt8) : List Tlv → Option UInt8 → Prop
  | absent {ts : List Tlv} (h : ∀ t ∈ ts, t.type ≠ type) : LastOctet type ts none
  | present {before behind : List Tlv} {t : Tlv} (ht : t.type = type)
      (h : ∀ u ∈ behind, u.type ≠ type) : LastOctet type (before ++ t :: behind) t.value.head?

variable {type : UInt8} {ts : List Tlv} {v : Option UInt8}

lemma LastOctet.append (h : LastOctet type ts v) {t : Tlv} (ht : t.type ≠ type) :
    LastOctet type (ts ++ [t]) v := by
  cases h with
  | absent h =>
    refine .absent fun u hu => ?_
    rcases List.mem_append.1 hu with hu | hu
    · exact h u hu
    · rwa [List.mem_singleton.1 hu]
  | present ht' h =>
    rw [List.append_assoc, List.cons_append]
    refine .present ht' fun u hu => ?_
    rcases List.mem_append.1 hu with hu | hu
    · exact h u hu
    · rwa [List.mem_singleton.1 hu]

lemma lastOctet_lastStatus? (type : UInt8) (ts : List Tlv) :
    LastOctet type ts (lastStatus? type ts) := by
  induction ts using List.reverseRecOn with
  | nil => exact .absent nofun
  | append_singleton ts t ih =>
    by_cases ht : t.type = type
    · have hv : lastStatus? type (ts ++ [t]) = t.value.head? := by
        simp [lastStatus?, firstOctet?, List.filter_append, ht]
      rw [hv]
      exact .present ht nofun
    · have hv : lastStatus? type (ts ++ [t]) = lastStatus? type ts := by
        simp [lastStatus?, List.filter_append, ht]
      rw [hv]
      exact ih.append ht

lemma LastOctet.eq_lastStatus? (h : LastOctet type ts v) : v = lastStatus? type ts := by
  cases h with
  | absent h =>
    have hf : ts.filter (·.type = type) = [] := by simpa using h
    simp [lastStatus?, hf]
  | @present before behind t ht h =>
    have hf : behind.filter (·.type = type) = [] := by simpa using h
    simp [lastStatus?, firstOctet?, List.filter_append, ht, hf]

end Tlv

/-! ### Malformed frames -/

/-- If the computation fails, then because the octets are malformed. -/
structure Malforms {α : Type} (x : Except Error α) : Prop where
  isMalformed : ∀ {cause}, x = .error cause → ∃ why, cause = .malformed why

namespace Malforms

variable {α β : Type}

lemma ok (a : α) : Malforms (.ok a) := ⟨nofun⟩

lemma error (why : Malformed) : Malforms (.error (.malformed why) : Except Error α) :=
  ⟨fun h => ⟨why, (Except.error.inj h).symm⟩⟩

lemma bind {x : Except Error α} {k : α → Except Error β} (hx : Malforms x)
    (hk : ∀ a, Malforms (k a)) : Malforms (x >>= k) := by
  cases x with
  | error cause =>
    obtain ⟨why, rfl⟩ := hx.isMalformed rfl
    exact error why
  | ok a => exact hk a

end Malforms

namespace Frame

variable (f : Frame)

lemma malforms_need {α : Type} (n : Nat) (field : FrameField) (read : n ≤ f.octets.length → α) :
    Malforms (f.need n field read) := by
  unfold need
  split
  · exact .ok _
  · exact .error _

lemma malforms_header : Malforms f.header := f.malforms_need ..

lemma malforms_tlvOctets : Malforms f.tlvOctets :=
  f.malforms_header.bind fun _ => f.malforms_need ..

end Frame

lemma Maid.malforms_decode (xs : Octets) : Malforms (decode xs) := by
  unfold decode
  split
  case isFalse => exact .error _
  case isTrue h =>
    have hd : Malforms (decodeDomain xs h) := by
      unfold decodeDomain
      dsimp only
      split_ifs
      · exact .ok _
      · exact .error _
      · exact .ok _
      · exact .error _
    refine hd.bind fun domain => ?_
    have ha : Malforms (decodeAssociation xs h domain.2) := by
      unfold decodeAssociation
      dsimp only
      split_ifs
      · exact .error _
      · exact .ok _
    exact ha.bind fun _ => .ok _

namespace Tlv

lemma mapM_id_of_error (ts : List Tlv) (cause : Error) :
    (ts.map Except.ok ++ [Except.error cause]).mapM id = Except.error cause := by
  induction ts with
  | nil => rfl
  | cons t ts ih =>
    rw [List.map_cons, List.cons_append, List.mapM_cons, ih]
    rfl

lemma malforms_readAll (xs : Octets) : Malforms (readAll xs) := by
  obtain ⟨ts, rest, hts, rfl, ⟨behind, rfl⟩ | hrest⟩ := exists_split xs
  · have hok : readAll (ts.flatMap octets ++ endType :: behind) = .ok ts :=
      mapM_id_eq_ok.2 (walk_of_end hts behind)
    rw [hok]
    exact .ok ts
  · unfold readAll
    rw [walk_of_unfinished hts hrest, mapM_id_of_error]
    exact .error _

end Tlv

/-! ### What a continuity check looks like -/

namespace Ccm

/-- The octets are a continuity check that tells `c`. Its records start where the common header says,
be it among the fields in front of them, and anything may stand behind them. -/
inductive Denotes : Octets → Ccm → Prop
  | mk {d s : MacAddress} {tag : Option VlanTag} {h : CfmHeader} {sequence : UInt32}
      {mepId : UInt16} {names rest : Octets} {maid : Maid} {ts : List Tlv} {behind : Octets}
      {port interface : Option UInt8}
      (fits : h.Fits) (opcode : h.opcode = Opcode.ccm.code)
      (mepId_range : 1 ≤ mepId ∧ mepId ≤ maxMepId)
      (length_names : names.length = maidLength) (decoded : Maid.decode names = .ok maid)
      (reserved : reservedLength ≤ rest.length) (writable : ∀ t ∈ ts, t.Writable)
      (records : (fields sequence mepId names rest).drop h.firstTlvOffset.toNat =
        Tlv.sequence ts ++ behind)
      (port_status : Tlv.LastOctet Tlv.portStatusType ts port)
      (interface_status : Tlv.LastOctet Tlv.interfaceStatusType ts interface) :
      Denotes (Frame.ethernetHeader d s tag ++ (h.octets ++ fields sequence mepId names rest))
        ⟨s, h.level, h.flags, sequence, mepId, maid, port, interface⟩

/-- The octets are no message at all, or a message of another kind. -/
def Foreign (xs : Octets) : Prop :=
  (¬ ∃ d s tag rest, xs = Frame.ethernetHeader d s tag ++ rest) ∨
    ∃ d s tag h payload, xs = Frame.ethernetHeader d s tag ++ (CfmHeader.octets h ++ payload) ∧
      h.Fits ∧ h.opcode ≠ Opcode.ccm.code

lemma exists_fields {payload : Octets} (h : fixedLength ≤ payload.length) :
    ∃ sequence mepId names rest, payload = fields sequence mepId names rest ∧
      names.length = maidLength ∧ reservedLength ≤ rest.length := by
  unfold fixedLength at h
  have h0 : 0 + 4 ≤ payload.length := by omega
  have h4 : 4 + 2 ≤ payload.length := by omega
  have h6 : 6 + 48 ≤ payload.length := by omega
  refine ⟨Octets.read32 payload 0 h0, Octets.read16 payload 4 h4, Octets.slice payload 6 48 h6,
    payload.drop 54, ?_, Octets.length_slice .., ?_⟩
  · unfold fields
    rw [← Octets.drop_eq_slice h6, ← Octets.drop_eq_be16 h4]
    exact Octets.eq_be32 h0
  · rw [List.length_drop]
    unfold reservedLength
    omega

/-! ### The parser, place by place -/

section Layout

variable {f : Frame} {d s : MacAddress} {tag : Option VlanTag} {h : CfmHeader} {payload : Octets}

lemma parse_of_not_isCfm (hc : f.isCfm = false) : parse f = .error (.mismatch .notCfm) := by
  unfold parse
  rw [hc]
  rfl

lemma parse_of_header_error {cause : Error} (hc : f.isCfm = true) (hh : f.header = .error cause) :
    parse f = .error cause := by
  unfold parse
  rw [hc, hh]
  rfl

lemma parse_of_other (hf : f.octets = Frame.ethernetHeader d s tag ++ (h.octets ++ payload))
    (hh : h.Fits) (ho : h.opcode ≠ Opcode.ccm.code) :
    parse f = .error (.mismatch (.notCcm h.opcode)) := by
  unfold parse
  rw [Frame.isCfm_eq hf, Frame.header_eq hf hh]
  exact if_pos ho

lemma parse_of_truncated (hf : f.octets = Frame.ethernetHeader d s tag ++ (h.octets ++ payload))
    (hh : h.Fits) (ho : h.opcode = Opcode.ccm.code) (hl : payload.length < fixedLength) :
    parse f = .error (.malformed .truncatedCcm) := by
  unfold parse
  rw [Frame.isCfm_eq hf, Frame.header_eq hf hh, Frame.payload_eq hf]
  simp only [bind, Except.bind, Bool.not_true, Bool.false_eq_true, if_false, ho, ne_eq, not_true]
  exact dif_neg (Nat.not_le.2 hl)

lemma tlvOctets_of_drop {records : Octets}
    (hf : f.octets = Frame.ethernetHeader d s tag ++ (h.octets ++ payload)) (hh : h.Fits)
    (hr : payload.drop h.firstTlvOffset.toNat = records) (hne : records ≠ []) :
    f.tlvOctets = .ok records := by
  have hlt : h.firstTlvOffset.toNat < payload.length := by
    by_contra hge
    exact hne (hr ▸ List.drop_eq_nil_of_le (Nat.not_lt.1 hge))
  rw [← List.take_append_drop h.firstTlvOffset.toNat payload, hr] at hf
  exact Frame.tlvOctets_eq hf hh (List.length_take_of_le hlt.le)

lemma drop_of_tlvOctets {records : Octets}
    (hf : f.octets = Frame.ethernetHeader d s tag ++ (h.octets ++ payload)) (hh : h.Fits)
    (hr : f.tlvOctets = .ok records) : payload.drop h.firstTlvOffset.toNat = records := by
  unfold Frame.tlvOctets at hr
  rw [Frame.header_eq hf hh] at hr
  obtain ⟨-, hr⟩ := Frame.of_need hr
  rw [← hr, Frame.payloadOffset_eq hf, hf, ← List.append_assoc, ← List.drop_drop, List.drop_left]

end Layout

/-! ### Acceptance -/

lemma not_out_of_range {mepId : UInt16} :
    ¬ (mepId = 0 ∨ maxMepId < mepId) ↔ 1 ≤ mepId ∧ mepId ≤ maxMepId := by
  have h0 : mepId = 0 ↔ mepId.toNat = 0 := UInt16.toNat_inj.symm
  simp only [h0, UInt16.lt_iff_toNat_lt, UInt16.le_iff_toNat_le, UInt16.toNat_one]
  omega

variable {f : Frame} {c : Ccm}

theorem parse_of_denotes (h : Denotes f.octets c) : parse f = .ok c := by
  generalize hf : f.octets = xs at h
  cases h with
  | mk fits opcode mepId_range length_names decoded reserved writable records port_status
      interface_status =>
    have hrecords := tlvOctets_of_drop hf fits records (by simp [Tlv.sequence])
    rw [parse_of_layout hf fits opcode length_names reserved,
      if_neg (not_out_of_range.2 mepId_range), decoded, hrecords,
      port_status.eq_lastStatus?, interface_status.eq_lastStatus?]
    simp only [bind, Except.bind]
    rw [Tlv.readAll_sequence writable]
    rfl

lemma parse_of_foreign (h : Foreign f.octets) : ∃ why, parse f = .error (.mismatch why) := by
  rcases h with h | ⟨d, s, tag, h, payload, hf, hh, ho⟩
  · have hc : f.isCfm = false := by
      by_contra hc
      obtain ⟨d, s, tag, hf⟩ := Frame.exists_ethernetHeader (Bool.not_eq_false _ ▸ hc)
      exact h ⟨d, s, tag, _, hf⟩
    exact ⟨_, parse_of_not_isCfm hc⟩
  · exact ⟨_, parse_of_other hf hh ho⟩

/-- The three ends of parsing. -/
theorem parse_cases (f : Frame) : (∃ c, parse f = .ok c ∧ Denotes f.octets c) ∨
    (∃ why, parse f = .error (.mismatch why) ∧ Foreign f.octets) ∨
    ∃ why, parse f = .error (.malformed why) := by
  cases hc : f.isCfm with
  | false =>
    refine .inr (.inl ⟨_, parse_of_not_isCfm hc, .inl ?_⟩)
    rintro ⟨d, s, tag, rest, hf⟩
    exact absurd (Frame.isCfm_eq hf) (by simp [hc])
  | true =>
  cases hh : f.header with
  | error cause =>
    obtain ⟨why, rfl⟩ := f.malforms_header.isMalformed hh
    exact .inr (.inr ⟨why, parse_of_header_error hc hh⟩)
  | ok h =>
  obtain ⟨fits, d, s, tag, payload, hf⟩ := Frame.exists_layout hc hh
  by_cases ho : h.opcode = Opcode.ccm.code
  case neg =>
    exact .inr (.inl ⟨_, parse_of_other hf fits ho, .inr ⟨d, s, tag, h, payload, hf, fits, ho⟩⟩)
  by_cases hl : fixedLength ≤ payload.length
  case neg => exact .inr (.inr ⟨_, parse_of_truncated hf fits ho (Nat.not_le.1 hl)⟩)
  obtain ⟨sequence, mepId, names, rest, rfl, hn, hr⟩ := exists_fields hl
  have hp := parse_of_layout hf fits ho hn hr
  by_cases hid : mepId = 0 ∨ maxMepId < mepId
  case pos => exact .inr (.inr ⟨_, hp.trans (if_pos hid)⟩)
  rw [if_neg hid] at hp
  cases hx : parse f with
  | error cause =>
    -- Behind the checks of the kind and the id, only malformed fields are left to fail on.
    have hm : Malforms (parse f) := by
      rw [hp]
      exact (Maid.malforms_decode names).bind fun _ => f.malforms_tlvOctets.bind fun records =>
        (Tlv.malforms_readAll records).bind fun _ => .ok _
    obtain ⟨why, rfl⟩ := hm.isMalformed hx
    exact .inr (.inr ⟨why, rfl⟩)
  | ok c =>
    rw [hx] at hp
    obtain ⟨maid, hmaid, hp⟩ := ok_of_bind hp.symm
    obtain ⟨records, hrec, hp⟩ := ok_of_bind hp
    obtain ⟨ts, hts, hp⟩ := ok_of_bind hp
    cases hp
    obtain ⟨writable, behind, rfl⟩ := Tlv.readAll_eq_ok_iff.1 hts
    refine .inl ⟨_, rfl, ?_⟩
    rw [hf]
    exact .mk fits ho (not_out_of_range.1 hid) hn hmaid hr writable (drop_of_tlvOctets hf fits hrec)
      (Tlv.lastOctet_lastStatus? ..) (Tlv.lastOctet_lastStatus? ..)

end Ccm

/-- Parsing accepts exactly the octets of continuity checks, wherever the common header lets the
records start and whatever stands behind them, and tells what they tell. Everything else is refused:
as not for the station if it is no message or one of another kind, and as malformed otherwise. -/
theorem Ccm.accepts_exactly (f : Frame) :
    (∀ c, parse f = .ok c ↔ Denotes f.octets c) ∧
    ((∃ why, parse f = .error (.mismatch why)) ↔ Foreign f.octets) ∧
    ((∃ why, parse f = .error (.malformed why)) ↔
      (¬ ∃ c, Denotes f.octets c) ∧ ¬ Foreign f.octets) := by
  refine ⟨fun c => ⟨fun hp => ?_, parse_of_denotes⟩, ⟨?_, parse_of_foreign⟩, ?_, ?_⟩
  · rcases parse_cases f with ⟨c', hx, h⟩ | ⟨why, hx, -⟩ | ⟨why, hx⟩ <;> rw [hp] at hx <;> cases hx
    exact h
  · rintro ⟨why, hp⟩
    rcases parse_cases f with ⟨c, hx, -⟩ | ⟨why', -, h⟩ | ⟨why', hx⟩
    · simp [hp] at hx
    · exact h
    · simp [hp] at hx
  · rintro ⟨why, hp⟩
    refine ⟨fun ⟨c, h⟩ => ?_, fun h => ?_⟩
    · simp [parse_of_denotes h] at hp
    · obtain ⟨why', hx⟩ := parse_of_foreign h
      simp [hx] at hp
  · rintro ⟨hd, hforeign⟩
    rcases parse_cases f with ⟨c, -, h⟩ | ⟨why, -, h⟩ | h
    · exact absurd ⟨c, h⟩ hd
    · exact absurd h hforeign
    · exact h

end RingContinuity
