import RingContinuity.Proofs.CcmReception

/-!
# Valid configurations

The check of a configuration admits exactly those with which the continuity check on the link says
what the configuration says. Each bound of the check meets a cut, a clamp or a refusal somewhere
between the builder and the parser.
-/

namespace RingContinuity

namespace Ccm

/-- The continuity check says what the configuration says, and that everything is up. -/
structure Tells (c : Ccm) (config : Config) (own : MacAddress) : Prop where
  source : c.source = own
  mepId : some c.mepId = config.mepId
  level : c.level = config.level
  maid : c.maid = Maid.ofNames config.domainName config.associationName
  interval : c.interval? = some config.interval
  noDefect : c.remoteDefect = false
  portStatus : c.portStatus = some PortStatus.up.code
  interfaceStatus : c.interfaceStatus = some InterfaceStatus.up.code

variable {config : Config} {own : MacAddress} {mepId : UInt16}

lemma tells_said (hm : config.mepId = some mepId) (sequence : UInt32) :
    (said config own mepId sequence).Tells config own where
  source := rfl
  mepId := hm.symm
  level := rfl
  maid := rfl
  interval := CcmInterval.ofCode?_code config.interval
  noDefect := by
    change (config.interval.code &&& 0x80 != 0) = false
    cases config.interval <;> decide
  portStatus := rfl
  interfaceStatus := rfl

lemma valid_of_tells {tag : Option VlanTag} {d : MacAddress} {f : Frame} {c : Ccm}
    {sequence : UInt32} {pad : Octets}
    (hm : config.mepId = some mepId) (ht : config.tag = .ok tag)
    (hr : ∀ target, config.remoteMac = some target → target.isGroup = false)
    (hf : f.octets = Frame.ethernetHeader d own tag ++
      ((ownHeader config).octets ++ (ownPayload config mepId sequence ++ pad)))
    (hp : parse f = .ok c) (hc : c.Tells config own) : config.Valid := by
  obtain ⟨hid, maid, hmaid, rfl⟩ := of_parse_layout hf hp
  have hlevel : Frame.writtenLevel config.level = config.level := hc.level
  have hnames : maid = Maid.ofNames config.domainName config.associationName := hc.maid
  rw [hnames] at hmaid
  obtain ⟨hdomain, hassociation⟩ := Maid.of_decode_ofNames hmaid
  refine ⟨?_, Config.vlan_le_of_tag ht, fun id hid' => ?_, hdomain, hassociation, hr⟩
  · rw [← hlevel]
    exact Frame.writtenLevel_le config.level
  · rw [hm] at hid'
    cases hid'
    have h1 : 1 ≤ mepId := by
      rw [UInt16.le_iff_toNat_le]
      exact Nat.one_le_iff_ne_zero.2 fun h0 => hid (.inl (UInt16.toNat_inj.1 h0))
    exact ⟨h1, UInt16.not_lt.1 fun h => hid (.inr h)⟩

end Ccm

/-- The check of a configuration with an end point id and without a group address for its target
succeeds exactly if the station can build a continuity check, the check is in its VLAN and is parsed
as saying what the configuration says. Then all other frames can be built, too. -/
theorem validate_iff_tells {config : Config} {mepId : UInt16} (own : MacAddress)
    (hm : config.mepId = some mepId)
    (hr : ∀ target, config.remoteMac = some target → target.isGroup = false) :
    (config.validate = .ok () ↔ ∃ f c, Ccm.build config own = .ok f ∧ f.vlanId = config.vlan ∧
      Ccm.parse f = .ok c ∧ c.Tells config own) ∧
    (config.validate = .ok () →
      (∃ f, Ccm.build config own = .ok f) ∧
      (∀ target, config.remoteMac = some target → ∀ id, ∃ f, Loopback.build config own id = .ok f) ∧
      (∀ target id ttl, ∃ f, Linktrace.buildRequest config own target id ttl = .ok f) ∧
      ∃ f, RingAps.buildSignalFail config own = .ok f) := by
  rw [Config.validate_eq_ok]
  constructor
  · constructor
    · intro hvalid
      obtain ⟨tag, ht⟩ := Config.tag_ok hvalid.vlan
      obtain ⟨f, hf, hfo⟩ := Ccm.build_ok own hm ht
      rw [← List.append_nil (Ccm.ownPayload config mepId 0)] at hfo
      exact ⟨f, _, hf, Config.vlanId_eq ht hfo, Ccm.parse_own hvalid hm hfo, Ccm.tells_said hm 0⟩
    · rintro ⟨f, c, hf, -, hp, hc⟩
      obtain ⟨tag, ht, hfo⟩ := Ccm.of_build hm hf
      rw [← List.append_nil (Ccm.ownPayload config mepId 0)] at hfo
      exact Ccm.valid_of_tells hm ht hr hfo hp hc
  · intro hvalid
    obtain ⟨tag, ht⟩ := Config.tag_ok hvalid.vlan
    obtain ⟨ccm, hccm, -⟩ := Ccm.build_ok own hm ht
    obtain ⟨signalFail, hsf, -⟩ := RingAps.build_ok own ht (RingAps.ofRequest .signalFail own)
    refine ⟨⟨ccm, hccm⟩, fun target htarget id => ?_, fun target id ttl => ?_, signalFail, hsf⟩
    · obtain ⟨lbm, hlbm, -⟩ := Loopback.build_ok own htarget ht id
      exact ⟨lbm, hlbm⟩
    · obtain ⟨ltm, hltm, -⟩ := Linktrace.buildRequest_ok own ht target id ttl
      exact ⟨ltm, hltm⟩

/-- The default configuration with an end point id is valid. -/
theorem validate_iff_tells_default :
    Config.validate { mepId := some 1 } = .ok () ∧
    (∃ f c, Ccm.build { mepId := some 1 } ⟨2, 0, 0, 0, 0, 1⟩ = .ok f ∧ f.vlanId = 0 ∧
      Ccm.parse f = .ok c ∧ c.Tells { mepId := some 1 } ⟨2, 0, 0, 0, 0, 1⟩) ∧
    ∃ f, RingAps.buildSignalFail { mepId := some 1 } ⟨2, 0, 0, 0, 0, 1⟩ = .ok f := by
  have hok : Config.validate { mepId := some 1 } = .ok () := rfl
  have hm : Config.mepId { mepId := some 1 } = some 1 := rfl
  obtain ⟨htells, hbuilt⟩ :=
    validate_iff_tells ⟨2, 0, 0, 0, 0, 1⟩ hm (fun _ h => nomatch h)
  exact ⟨hok, htells.1 hok, (hbuilt hok).2.2.2⟩

end RingContinuity
