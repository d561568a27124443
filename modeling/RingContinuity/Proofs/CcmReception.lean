import RingContinuity.Proofs.FrameBuilding
import RingContinuity.Proofs.MepTable
import RingContinuity.Proofs.Records

/-!
# Continuity checks from one station to another

A continuity check that a station with a valid configuration builds and stamps is received by every
other station of its association, with the fields that it was built with.
-/

namespace RingContinuity

/-! ### Valid configurations -/

namespace Config

structure Valid (c : Config) : Prop where
  level : c.level ≤ maxLevel
  vlan : c.vlan ≤ maxVlanId
  mepId : ∀ id, c.mepId = some id → 1 ≤ id ∧ id ≤ maxMepId
  domain : 1 ≤ c.domainName.utf8ByteSize ∧ c.domainName.utf8ByteSize ≤ maxDomainNameLength
  association : 1 ≤ c.associationName.utf8ByteSize ∧
    c.domainName.utf8ByteSize + c.associationName.utf8ByteSize ≤ maidLength - 4
  remoteMac : ∀ target, c.remoteMac = some target → target.isGroup = false

lemma ensure_eq_ok {p : Prop} [Decidable p] {cause : Misconfiguration} :
    ensure p cause = .ok () ↔ p := by
  unfold ensure
  by_cases hp : p
  · rw [if_pos hp]
    exact iff_of_true rfl hp
  · rw [if_neg hp]
    exact iff_of_false nofun hp

lemma ensure_bind_eq_ok {p : Prop} [Decidable p] {cause : Misconfiguration}
    {rest : Unit → Except Error Unit} :
    (ensure p cause >>= rest) = .ok () ↔ p ∧ rest () = .ok () := by
  unfold ensure
  by_cases hp : p
  · rw [if_pos hp]
    exact ⟨fun h => ⟨hp, h⟩, fun h => h.2⟩
  · rw [if_neg hp]
    exact iff_of_false nofun fun h => hp h.1

lemma valid_iff {c : Config} : c.Valid ↔ c.level ≤ maxLevel ∧ c.vlan ≤ maxVlanId ∧
    (∀ id, c.mepId = some id → 1 ≤ id ∧ id ≤ maxMepId) ∧
    (1 ≤ c.domainName.utf8ByteSize ∧ c.domainName.utf8ByteSize ≤ maxDomainNameLength) ∧
    (1 ≤ c.associationName.utf8ByteSize ∧
      c.domainName.utf8ByteSize + c.associationName.utf8ByteSize ≤ maidLength - 4) ∧
    ∀ target, c.remoteMac = some target → target.isGroup = false :=
  ⟨fun ⟨hl, hv, hm, hd, ha, hr⟩ => ⟨hl, hv, hm, hd, ha, hr⟩,
    fun ⟨hl, hv, hm, hd, ha, hr⟩ => ⟨hl, hv, hm, hd, ha, hr⟩⟩

/-- The check is passed by the valid configurations. -/
theorem validate_eq_ok {c : Config} : c.validate = .ok () ↔ c.Valid := by
  have hpure : (pure () : Except Error Unit) = .ok () := rfl
  rw [valid_iff]
  unfold validate
  cases c.mepId <;> cases c.remoteMac <;>
    simp only [ensure_bind_eq_ok, ensure_eq_ok, hpure, Option.some.injEq, forall_eq', reduceCtorEq,
      false_imp_iff, implies_true, true_and, and_true]

theorem valid_of_validate {c : Config} (h : c.validate = .ok ()) : c.Valid := validate_eq_ok.1 h

lemma vid_tag {c : Config} {tag : Option VlanTag} (h : c.tag = .ok tag) :
    ((tag.map fun t => VlanTag.ofTci t.tci).map (·.vid)).getD 0 = c.vlan := by
  unfold Config.tag taggedVlan at h
  by_cases hv : c.vlan = 0
  · rw [if_pos hv] at h
    cases h
    exact hv.symm
  · rw [if_neg hv] at h
    dsimp only at h
    cases ht : VlanTag.ofVid c.vlan with
    | error err =>
      rw [ht] at h
      exact nomatch h
    | ok t =>
      rw [ht] at h
      cases h
      exact VlanTag.vid_ofTci_tci ht

lemma vlanId_eq {c : Config} {tag : Option VlanTag} {f : Frame} {d s : MacAddress} {rest : Octets}
    (h : c.tag = .ok tag) (hf : f.octets = Frame.ethernetHeader d s tag ++ rest) :
    f.vlanId = c.vlan := by
  unfold Frame.vlanId
  rw [Frame.vlan?_eq hf]
  exact vid_tag h

end Config

/-! ### Reception -/

namespace Ccm

/-- The fields at the start of the payload: sequence number, end point id, the names of the
association, and what follows them. -/
def fields (sequence : UInt32) (mepId : UInt16) (names rest : Octets) : Octets :=
  Octets.be32 sequence ++ (Octets.be16 mepId ++ (names ++ rest))

lemma length_fields (sequence : UInt32) (mepId : UInt16) (names rest : Octets) :
    (fields sequence mepId names rest).length = 6 + names.length + rest.length := by
  simp only [fields, List.length_append, Octets.length_be32, Octets.length_be16]
  omega

/-- What remains to be checked when all fields are there: the end point id, the names and the
records. -/
theorem parse_of_layout {f : Frame} {d s : MacAddress} {tag : Option VlanTag} {h : CfmHeader}
    {sequence : UInt32} {mepId : UInt16} {names rest : Octets}
    (hf : f.octets = Frame.ethernetHeader d s tag ++
      (h.octets ++ fields sequence mepId names rest)) (hh : h.Fits)
    (ho : h.opcode = Opcode.ccm.code) (hn : names.length = maidLength)
    (hr : reservedLength ≤ rest.length) :
    parse f =
      if mepId = 0 ∨ maxMepId < mepId then .error (.malformed (.mepIdRange mepId))
      else do
        let maid ← Maid.decode names
        let tlvs ← Tlv.readAll (← f.tlvOctets)
        return ⟨s, h.level, h.flags, sequence, mepId, maid,
          Tlv.lastStatus? Tlv.portStatusType tlvs, Tlv.lastStatus? Tlv.interfaceStatusType tlvs⟩ := by
  have hlen : 70 ≤ (fields sequence mepId names rest).length := by
    rw [length_fields, hn]
    unfold maidLength reservedLength at *
    omega
  have hid : Octets.read16 (fields sequence mepId names rest) 4 (by omega) = mepId :=
    Octets.word16_be16 mepId
  have hseq : Octets.read32 (fields sequence mepId names rest) 0 (by omega) = sequence :=
    Octets.word32_be32 sequence
  have hnames : Octets.slice (fields sequence mepId names rest) 6 48 (by omega) = names :=
    List.take_left' hn
  unfold parse
  rw [Frame.isCfm_eq hf, Frame.header_eq hf hh, Frame.payload_eq hf, Frame.source_eq hf]
  simp only [bind, Except.bind, Bool.not_true, Bool.false_eq_true, if_false, ho, ne_eq, not_true]
  rw [dif_pos (show fixedLength ≤ _ from hlen), hid, hseq, hnames]
  split <;> rfl

/-- What a station says in its continuity check with a sequence number. -/
def said (config : Config) (own : MacAddress) (mepId : UInt16) (sequence : UInt32) : Ccm where
  source := own
  level := config.level
  flags := config.interval.code
  sequence := sequence
  mepId := mepId
  maid := Maid.ofNames config.domainName config.associationName
  portStatus := some PortStatus.up.code
  interfaceStatus := some InterfaceStatus.up.code

lemma writable_ownTlvs : ∀ t ∈ ownTlvs, t.Writable := by
  intro t ht
  simp only [ownTlvs, List.mem_cons, List.not_mem_nil, or_false] at ht
  rcases ht with rfl | rfl | rfl <;> exact ⟨by decide, by decide⟩

section OwnFrame

variable {config : Config} {mepId : UInt16} {tag : Option VlanTag} {own d : MacAddress}
  {sequence : UInt32} {pad : Octets} {f : Frame}

/-- What the parser makes of a continuity check that a station built, whatever it is told. -/
theorem parse_layout (hf : f.octets = Frame.ethernetHeader d own tag ++
      ((ownHeader config).octets ++ (ownPayload config mepId sequence ++ pad))) :
    parse f = if mepId = 0 ∨ maxMepId < mepId then .error (.malformed (.mepIdRange mepId))
      else (Maid.decode (Maid.ofNames config.domainName config.associationName).encode).map
        fun maid => { said config own mepId sequence with
          level := Frame.writtenLevel config.level, maid } := by
  let names := (Maid.ofNames config.domainName config.associationName).encode
  let fixed := Octets.be32 sequence ++ (Octets.be16 mepId ++
    (names ++ List.replicate reservedLength 0))
  have hfields : ownPayload config mepId sequence ++ pad = fields sequence mepId names
      (List.replicate reservedLength 0 ++ (Tlv.sequence ownTlvs ++ pad)) := by
    simp only [ownPayload, fields, names, List.append_assoc]
  have hrecords : f.tlvOctets = .ok (Tlv.sequence ownTlvs ++ pad) := by
    have hsplit : ownPayload config mepId sequence ++ pad =
        fixed ++ (Tlv.sequence ownTlvs ++ pad) := by
      simp only [ownPayload, fixed, names, List.append_assoc]
    have hfixed : fixed.length = (ownHeader config).firstTlvOffset.toNat := by
      simp only [fixed, names, List.length_append, Octets.length_be32, Octets.length_be16,
        Maid.length_encode, List.length_replicate]
      rfl
    rw [hsplit] at hf
    exact Frame.tlvOctets_eq hf (fits_ownHeader config) hfixed
  rw [hfields] at hf
  rw [parse_of_layout hf (fits_ownHeader config) rfl (Maid.length_encode _) (by simp), hrecords]
  cases Maid.decode (Maid.ofNames config.domainName config.associationName).encode with
  | error cause => rfl
  | ok maid =>
    simp only [bind, Except.bind, Tlv.readAll_sequence writable_ownTlvs]
    rfl

lemma of_parse_layout {c : Ccm} (hf : f.octets = Frame.ethernetHeader d own tag ++
      ((ownHeader config).octets ++ (ownPayload config mepId sequence ++ pad)))
    (hp : parse f = .ok c) : ¬ (mepId = 0 ∨ maxMepId < mepId) ∧ ∃ maid,
      Maid.decode (Maid.ofNames config.domainName config.associationName).encode = .ok maid ∧
      c = { said config own mepId sequence with
        level := Frame.writtenLevel config.level, maid } := by
  rw [parse_layout hf] at hp
  split at hp
  · exact nomatch hp
  · next hid =>
    cases hm : Maid.decode (Maid.ofNames config.domainName config.associationName).encode with
    | error cause =>
      rw [hm] at hp
      exact nomatch hp
    | ok maid =>
      rw [hm] at hp
      exact ⟨hid, maid, rfl, (Except.ok.inj hp).symm⟩

/-- A continuity check that is built by the rules is parsed as what its station says. -/
theorem parse_own (hc : config.Valid) (hm : config.mepId = some mepId)
    (hf : f.octets = Frame.ethernetHeader d own tag ++
      ((ownHeader config).octets ++ (ownPayload config mepId sequence ++ pad))) :
    parse f = .ok (said config own mepId sequence) := by
  have hrange : ¬ (mepId = 0 ∨ maxMepId < mepId) := by
    obtain ⟨h1, h2⟩ := hc.mepId mepId hm
    rintro (h0 | hgt)
    · rw [h0] at h1
      exact absurd h1 (by decide)
    · exact UInt16.not_lt.2 h2 hgt
  rw [parse_layout hf, if_neg hrange, Maid.decode_ofNames hc.domain hc.association,
    Frame.writtenLevel_of_le hc.level]
  rfl

lemma of_receive {receiver : Config} {c : Ccm} (h : receive f receiver = .ok c) :
    parse f = .ok c ∧ receiver.mepId ≠ some c.mepId := by
  unfold receive at h
  obtain ⟨-, h⟩ := ok_of_guard h
  obtain ⟨c', hp, h⟩ := ok_of_bind h
  obtain ⟨hne, h⟩ := ok_of_guard h
  cases h
  exact ⟨hp, Ne.symm hne⟩

/-- A station listens to the continuity checks of the other stations in its VLAN. -/
theorem receive_own {receiver : Config} (hc : config.Valid) (hm : config.mepId = some mepId)
    (ht : config.tag = .ok tag) (hvlan : receiver.vlan = config.vlan)
    (hother : receiver.mepId ≠ some mepId)
    (hf : f.octets = Frame.ethernetHeader d own tag ++
      ((ownHeader config).octets ++ (ownPayload config mepId sequence ++ pad))) :
    receive f receiver = .ok (said config own mepId sequence) := by
  have hvid : f.vlanId = config.vlan := Config.vlanId_eq ht hf
  have hne : ¬ some (said config own mepId sequence).mepId = receiver.mepId := Ne.symm hother
  unfold receive
  rw [parse_own hc hm hf, hvid, hvlan]
  simp only [bind, Except.bind, ne_eq, not_true, if_false]
  rw [if_neg hne]
  rfl

end OwnFrame
end Ccm
end RingContinuity
