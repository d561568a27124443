import RingContinuity.Node
import RingContinuity.Proofs.FrameLayout

/-!
# Frames that are built

Every builder appends fixed octets behind an Ethernet header. `Appends` says which octets an edit
appends to any frame with room for them, so that the octets of a built frame can be read off its
builder, and `edited_start` says when building succeeds.
-/

namespace RingContinuity

lemma ok_of_bind {ε α β : Type} {x : Except ε α} {f : α → Except ε β} {b : β}
    (h : (x >>= f) = .ok b) : ∃ a, x = .ok a ∧ f a = .ok b := by
  cases x with
  | error e => exact nomatch h
  | ok a => exact ⟨a, rfl, h⟩

lemma ok_of_guard {ε α β : Type} {p : Prop} [Decidable p] {cause : ε} {k : α → Except ε β}
    {rest : Except ε β} {b : β} (h : (if p then (throw cause >>= k) else rest) = .ok b) :
    ¬ p ∧ rest = .ok b := by
  by_cases hp : p
  · rw [if_pos hp] at h
    exact nomatch h
  · rw [if_neg hp] at h
    exact ⟨hp, h⟩

namespace Frame

/-- The frame with `xs` behind it, of the kind `k` if one is given. -/
def extended (f : Frame) (xs : Octets) (k : Option Opcode)
    (h : f.octets.length + xs.length ≤ maxFrameLength) : Frame where
  octets := f.octets ++ xs
  kind := k.or f.kind
  length_le := by simpa only [List.length_append] using h

/-- The edit appends `xs` to every frame that has room for them, and records the kind `k` if one is
given. -/
def Edit.Appends (e : Edit Unit) (xs : Octets) (k : Option Opcode) : Prop :=
  ∀ (f : Frame) (h : f.octets.length + xs.length ≤ maxFrameLength),
    e f = .ok () (f.extended xs k h)

variable {e e' : Edit Unit} {xs ys : Octets} {k k' : Option Opcode}

lemma Edit.Appends.bind (h : Appends e xs k) (h' : Appends e' ys k') :
    Appends (e >>= fun _ => e') (xs ++ ys) (k'.or k) := by
  intro f hf
  have hl : f.octets.length + xs.length + ys.length ≤ maxFrameLength := by
    rw [List.length_append] at hf
    omega
  have hx : f.octets.length + xs.length ≤ maxFrameLength := by omega
  have hy : (f.extended xs k hx).octets.length + ys.length ≤ maxFrameLength := by
    change (f.octets ++ xs).length + ys.length ≤ maxFrameLength
    rw [List.length_append]
    exact hl
  change EStateM.bind e (fun _ => e') f = _
  unfold EStateM.bind
  rw [h f hx]
  dsimp only
  rw [h' _ hy]
  simp only [extended, List.append_assoc, Option.or_assoc]

lemma appends_put (xs : Octets) : Edit.Appends (put xs) xs none := by
  intro f h
  unfold put
  rw [dif_pos h]
  rfl

lemma appends_setKind (k : Opcode) : Edit.Appends (setKind k) [] (some k) := by
  intro f h
  simp [setKind, extended]

/-- The level in the header of a frame that is built with `level`. -/
def writtenLevel (level : UInt8) : UInt8 := if maxLevel < level then 0 else level

lemma writtenLevel_of_le {level : UInt8} (h : level ≤ maxLevel) : writtenLevel level = level := by
  unfold writtenLevel
  rw [if_neg (UInt8.not_lt.2 h)]

lemma writtenLevel_le (level : UInt8) : writtenLevel level ≤ maxLevel := by
  unfold writtenLevel
  by_cases h : maxLevel < level
  · rw [if_pos h]
    decide
  · rw [if_neg h]
    exact UInt8.not_lt.1 h

lemma fits_written (level opcode flags offset : UInt8) {version : UInt8}
    (h : version &&& 0x1F = version) :
    CfmHeader.Fits ⟨writtenLevel level, version, opcode, flags, offset⟩ :=
  ⟨and_seven_of_le (writtenLevel_le level), h⟩

lemma appends_addHeader (level flags offset : UInt8) (k : Opcode) (version : UInt8) :
    Edit.Appends (addHeader level flags offset k version)
      (CfmHeader.octets ⟨writtenLevel level, version, k.code, flags, offset⟩) (some k) := by
  have h := (appends_put
    (CfmHeader.octets ⟨writtenLevel level, version, k.code, flags, offset⟩)).bind
    (appends_setKind k)
  rw [List.append_nil] at h
  exact h

lemma appends_addTlv {type : UInt8} (ht : type ≠ Tlv.endType) {value : Octets}
    (hv : value.length < 65536) :
    Edit.Appends (addTlv type value) (Tlv.octets ⟨type, value⟩) none := by
  have h := (appends_put [type]).bind
    ((appends_put (Octets.be16 (UInt16.ofNat value.length))).bind (appends_put value))
  unfold addTlv
  rw [if_neg ht, if_pos hv]
  exact h

lemma appends_addEndTlv : Edit.Appends addEndTlv [Tlv.endType] none := by
  unfold addEndTlv addTlv
  rw [if_pos rfl]
  exact appends_put _

theorem edited_start (h : Edit.Appends e xs k) (hl : 18 + xs.length ≤ maxFrameLength)
    (d s : MacAddress) (tag : Option VlanTag) :
    ∃ f, (start d s tag).edited e = .ok f ∧
      f.octets = ethernetHeader d s tag ++ xs ∧ f.kind = k := by
  have hs : (start d s tag).octets.length + xs.length ≤ maxFrameLength := by
    have := length_ethernetHeader_le d s tag
    change (ethernetHeader d s tag).length + xs.length ≤ maxFrameLength
    omega
  refine ⟨(start d s tag).extended xs k hs, ?_, rfl, Option.or_none⟩
  unfold edited EStateM.run
  rw [h _ hs]

end Frame

/-! ### The templates of a node -/

lemma Config.tag_ok {config : Config} (h : config.vlan ≤ maxVlanId) :
    ∃ tag, config.tag = .ok tag := by
  unfold tag taggedVlan
  by_cases hv : config.vlan = 0
  · rw [if_pos hv]
    exact ⟨none, rfl⟩
  · have hvid : ¬ (config.vlan = 0 ∨ maxVlanId < config.vlan) := by
      rintro (h0 | hgt)
      · exact hv h0
      · exact UInt16.not_lt.2 h hgt
    rw [if_neg hv]
    dsimp only
    unfold VlanTag.ofVid
    rw [if_neg hvid]
    exact ⟨_, rfl⟩

lemma Config.vlan_le_of_tag {config : Config} {tag : Option VlanTag} (h : config.tag = .ok tag) :
    config.vlan ≤ maxVlanId := by
  unfold Config.tag taggedVlan at h
  by_cases hv : config.vlan = 0
  · rw [hv]
    decide
  · rw [if_neg hv] at h
    dsimp only at h
    unfold VlanTag.ofVid at h
    split at h
    · exact nomatch h
    · next hvid => exact UInt16.not_lt.1 fun hgt => hvid (.inr hgt)

section Templates

variable {config : Config} {tag : Option VlanTag} (own : MacAddress)

namespace Ccm

def ownHeader (config : Config) : CfmHeader :=
  ⟨Frame.writtenLevel config.level, 0, Opcode.ccm.code, config.interval.code,
    Opcode.ccm.firstTlvOffset⟩

lemma fits_ownHeader (config : Config) : (ownHeader config).Fits :=
  Frame.fits_written _ _ _ _ (by decide)

def ownTlvs : List Tlv :=
  [⟨Tlv.senderIdType, [0]⟩, ⟨Tlv.portStatusType, [PortStatus.up.code]⟩,
    ⟨Tlv.interfaceStatusType, [InterfaceStatus.up.code]⟩]

def ownPayload (config : Config) (mepId : UInt16) (sequence : UInt32) : Octets :=
  Octets.be32 sequence ++ (Octets.be16 mepId ++
    ((Maid.ofNames config.domainName config.associationName).encode ++
      (List.replicate reservedLength 0 ++ Tlv.sequence ownTlvs)))

lemma appends_body (config : Config) (mepId : UInt16) :
    Frame.Edit.Appends (body config mepId) ((ownHeader config).octets ++ ownPayload config mepId 0)
      (some .ccm) :=
  (Frame.appends_addHeader _ _ _ _ _).bind <| (Frame.appends_put _).bind <|
    (Frame.appends_put _).bind <| (Frame.appends_put _).bind <| (Frame.appends_put _).bind <|
    (Frame.appends_addTlv (by decide) (by decide)).bind <|
    (Frame.appends_addTlv (by decide) (by decide)).bind <|
    (Frame.appends_addTlv (by decide) (by decide)).bind Frame.appends_addEndTlv

lemma length_ownPayload (config : Config) (mepId : UInt16) (sequence : UInt32) :
    (ownPayload config mepId sequence).length = 83 := by
  unfold ownPayload
  simp only [List.length_append, Octets.length_be32, Octets.length_be16, Maid.length_encode,
    List.length_replicate]
  decide

lemma length_own_le (config : Config) (mepId : UInt16) :
    18 + ((ownHeader config).octets ++ ownPayload config mepId 0).length ≤ maxFrameLength := by
  rw [List.length_append, length_ownPayload, CfmHeader.length_octets]
  decide

theorem build_ok {mepId : UInt16} (hm : config.mepId = some mepId) (ht : config.tag = .ok tag) :
    ∃ f, build config own = .ok f ∧ f.octets =
      Frame.ethernetHeader (MacAddress.cfmGroup config.level) own tag ++
        ((ownHeader config).octets ++ ownPayload config mepId 0) := by
  obtain ⟨f, hf, ho, -⟩ := Frame.edited_start (appends_body config mepId)
    (length_own_le config mepId) (MacAddress.cfmGroup config.level) own tag
  refine ⟨f, ?_, ho⟩
  unfold build
  rw [hm, ht]
  exact hf

lemma transactionId_eq {f : Frame} {d s : MacAddress} {mepId : UInt16} {sequence : UInt32}
    {pad : Octets} (hf : f.octets = Frame.ethernetHeader d s tag ++
      ((ownHeader config).octets ++ (ownPayload config mepId sequence ++ pad))) :
    f.transactionId = .ok sequence := by
  unfold ownPayload at hf
  rw [List.append_assoc] at hf
  exact Frame.transactionId_eq hf

lemma of_build {own : MacAddress} {mepId : UInt16} {f : Frame} (hm : config.mepId = some mepId)
    (hf : build config own = .ok f) : ∃ tag, config.tag = .ok tag ∧ f.octets =
      Frame.ethernetHeader (MacAddress.cfmGroup config.level) own tag ++
        ((ownHeader config).octets ++ ownPayload config mepId 0) := by
  have hb := hf
  unfold build at hb
  rw [hm] at hb
  obtain ⟨_, -, hb⟩ := ok_of_bind hb
  obtain ⟨tag, ht, -⟩ := ok_of_bind hb
  obtain ⟨f', hf', ho⟩ := build_ok own hm ht
  rw [hf] at hf'
  cases hf'
  exact ⟨tag, ht, ho⟩

lemma kind_of_build {own : MacAddress} {f : Frame} (hf : build config own = .ok f) :
    f.kind = some .ccm := by
  unfold build at hf
  cases hm : config.mepId with
  | none =>
    rw [hm] at hf
    exact nomatch hf
  | some id =>
    rw [hm] at hf
    obtain ⟨mepId, -, hf⟩ := ok_of_bind hf
    obtain ⟨tag, -, hf⟩ := ok_of_bind hf
    obtain ⟨f', hf', -, hk⟩ := Frame.edited_start (appends_body config mepId)
      (length_own_le config mepId) (MacAddress.cfmGroup config.level) own tag
    rw [hf] at hf'
    cases hf'
    exact hk

end Ccm

namespace Loopback

def ownHeader (config : Config) : CfmHeader :=
  ⟨Frame.writtenLevel config.level, 0, Opcode.lbm.code, 0, Opcode.lbm.firstTlvOffset⟩

lemma fits_ownHeader (config : Config) : (ownHeader config).Fits :=
  Frame.fits_written _ _ _ _ (by decide)

lemma appends_body (config : Config) (id : UInt32) :
    Frame.Edit.Appends (body config.level id)
      ((ownHeader config).octets ++ (Octets.be32 id ++ Tlv.sequence [⟨Tlv.senderIdType, [0]⟩]))
      (some .lbm) :=
  (Frame.appends_addHeader _ _ _ _ _).bind <| (Frame.appends_put _).bind <|
    (Frame.appends_addTlv (by decide) (by decide)).bind Frame.appends_addEndTlv

lemma length_own_le (config : Config) (id : UInt32) : 18 + ((ownHeader config).octets ++
    (Octets.be32 id ++ Tlv.sequence [⟨Tlv.senderIdType, [0]⟩])).length ≤ maxFrameLength := by
  simp only [List.length_append, CfmHeader.length_octets, Octets.length_be32]
  decide

theorem build_ok {target : MacAddress} (hr : config.remoteMac = some target)
    (ht : config.tag = .ok tag) (id : UInt32) :
    ∃ f, build config own id = .ok f ∧ f.octets = Frame.ethernetHeader target own tag ++
      ((ownHeader config).octets ++ (Octets.be32 id ++ Tlv.sequence [⟨Tlv.senderIdType, [0]⟩])) := by
  obtain ⟨f, hf, ho, -⟩ := Frame.edited_start (appends_body config id) (length_own_le config id)
    target own tag
  refine ⟨f, ?_, ho⟩
  unfold build
  rw [hr, ht]
  exact hf

lemma kind_of_build {own : MacAddress} {id : UInt32} {f : Frame}
    (hf : build config own id = .ok f) : f.kind = some .lbm := by
  unfold build at hf
  cases hr : config.remoteMac with
  | none =>
    rw [hr] at hf
    exact nomatch hf
  | some remote =>
    rw [hr] at hf
    obtain ⟨target, -, hf⟩ := ok_of_bind hf
    obtain ⟨tag, -, hf⟩ := ok_of_bind hf
    obtain ⟨f', hf', -, hk⟩ := Frame.edited_start (appends_body config id) (length_own_le config id)
      target own tag
    rw [hf] at hf'
    cases hf'
    exact hk

end Loopback

namespace Linktrace

def requestHeader (config : Config) : CfmHeader :=
  ⟨Frame.writtenLevel config.level, 0, Opcode.ltm.code, filteringOnlyFlag,
    Opcode.ltm.firstTlvOffset⟩

lemma fits_requestHeader (config : Config) : (requestHeader config).Fits :=
  Frame.fits_written _ _ _ _ (by decide)

def requestPayload (own target : MacAddress) (id : UInt32) (ttl : UInt8) : Octets :=
  Octets.be32 id ++ ([ttl] ++ (own.octets ++ (target.octets ++ [Tlv.endType])))

lemma appends_requestBody (config : Config) (target : MacAddress) (id : UInt32) (ttl : UInt8) :
    Frame.Edit.Appends (requestBody config.level own target id ttl)
      ((requestHeader config).octets ++ requestPayload own target id ttl) (some .ltm) :=
  (Frame.appends_addHeader _ _ _ _ _).bind <| (Frame.appends_put _).bind <|
    (Frame.appends_put _).bind <| (Frame.appends_put _).bind <| (Frame.appends_put _).bind
      Frame.appends_addEndTlv

theorem buildRequest_ok (ht : config.tag = .ok tag) (target : MacAddress) (id : UInt32)
    (ttl : UInt8) : ∃ f, buildRequest config own target id ttl = .ok f ∧ f.octets =
      Frame.ethernetHeader (MacAddress.linktraceGroup config.level) own tag ++
        ((requestHeader config).octets ++ requestPayload own target id ttl) := by
  have hlen : 18 + ((requestHeader config).octets ++ requestPayload own target id ttl).length ≤
      maxFrameLength := by
    unfold requestPayload
    simp only [List.length_append, CfmHeader.length_octets, Octets.length_be32,
      MacAddress.length_octets, List.length_singleton]
    decide
  obtain ⟨f, hf, ho, -⟩ := Frame.edited_start (appends_requestBody own config target id ttl) hlen
    (MacAddress.linktraceGroup config.level) own tag
  refine ⟨f, ?_, ho⟩
  unfold buildRequest
  rw [ht]
  exact hf

lemma of_buildRequest {own target : MacAddress} {id : UInt32} {ttl : UInt8} {f : Frame}
    (hf : buildRequest config own target id ttl = .ok f) : ∃ tag, f.octets =
      Frame.ethernetHeader (MacAddress.linktraceGroup config.level) own tag ++
        ((requestHeader config).octets ++ requestPayload own target id ttl) := by
  have hb := hf
  unfold buildRequest at hb
  obtain ⟨tag, ht, -⟩ := ok_of_bind hb
  obtain ⟨f', hf', ho⟩ := buildRequest_ok own ht target id ttl
  rw [hf] at hf'
  cases hf'
  exact ⟨tag, ho⟩

def replyHeader (r : Request) : CfmHeader :=
  ⟨Frame.writtenLevel r.level, 0, Opcode.ltr.code, terminalFlag, Opcode.ltr.firstTlvOffset⟩

lemma fits_replyHeader (r : Request) : (replyHeader r).Fits := Frame.fits_written _ _ _ _ (by decide)

def replyPayload (r : Request) (action : RelayAction) : Octets :=
  Octets.be32 r.id ++ ([decrement r.ttl] ++ ([action.code] ++ [Tlv.endType]))

lemma appends_replyBody (r : Request) (action : RelayAction) :
    Frame.Edit.Appends (replyBody r action)
      ((replyHeader r).octets ++ replyPayload r action) (some .ltr) :=
  (Frame.appends_addHeader _ _ _ _ _).bind <| (Frame.appends_put _).bind <|
    (Frame.appends_put _).bind <| (Frame.appends_put _).bind Frame.appends_addEndTlv

theorem buildReply_ok (r : Request) (tag : Option VlanTag) (action : RelayAction) :
    ∃ f, buildReply r own tag action = .ok f ∧ f.octets = Frame.ethernetHeader r.origin own tag ++
      ((replyHeader r).octets ++ replyPayload r action) := by
  have hlen : 18 + ((replyHeader r).octets ++ replyPayload r action).length ≤ maxFrameLength := by
    unfold replyPayload
    simp only [List.length_append, CfmHeader.length_octets, Octets.length_be32,
      List.length_singleton]
    decide
  obtain ⟨f, hf, ho, -⟩ := Frame.edited_start (appends_replyBody r action) hlen r.origin own tag
  exact ⟨f, hf, ho⟩

lemma of_buildReply {own : MacAddress} {r : Request} {action : RelayAction} {f : Frame}
    (hf : buildReply r own tag action = .ok f) : f.octets = Frame.ethernetHeader r.origin own tag ++
      ((replyHeader r).octets ++ replyPayload r action) := by
  obtain ⟨f', hf', ho⟩ := buildReply_ok own r tag action
  rw [hf] at hf'
  cases hf'
  exact ho

end Linktrace

namespace RingAps

def ownHeader (config : Config) : CfmHeader :=
  ⟨Frame.writtenLevel config.level, 1, Opcode.raps.code, 0, Opcode.raps.firstTlvOffset⟩

lemma fits_ownHeader (config : Config) : (ownHeader config).Fits :=
  Frame.fits_written _ _ _ _ (by decide)

lemma appends_body (config : Config) (p : RingAps) :
    Frame.Edit.Appends (body config.level p)
      ((ownHeader config).octets ++ (p.encode ++ [Tlv.endType])) (some .raps) :=
  (Frame.appends_addHeader _ _ _ _ _).bind <| (Frame.appends_put _).bind Frame.appends_addEndTlv

theorem build_ok (ht : config.tag = .ok tag) (p : RingAps) :
    ∃ f, build config own p = .ok f ∧ f.octets =
      Frame.ethernetHeader (MacAddress.ringGroup config.ringId) own tag ++
        ((ownHeader config).octets ++ (p.encode ++ [Tlv.endType])) := by
  have hlen : 18 + ((ownHeader config).octets ++ (p.encode ++ [Tlv.endType])).length ≤
      maxFrameLength := by
    have hp : p.encode.length = size := Octets.length_fit ..
    simp only [List.length_append, CfmHeader.length_octets, hp]
    decide
  obtain ⟨f, hf, ho, -⟩ := Frame.edited_start (appends_body config p) hlen
    (MacAddress.ringGroup config.ringId) own tag
  refine ⟨f, ?_, ho⟩
  unfold build
  rw [ht]
  exact hf

end RingAps

/-! ### New schedules -/

namespace Schedule

structure Templates (s : Schedule) (config : Config) (own : MacAddress) (tag : Option VlanTag) :
    Prop where
  ccm : ∀ id, config.mepId = some id → ∃ f, s.ccm = some f ∧ f.octets =
    Frame.ethernetHeader (MacAddress.cfmGroup config.level) own tag ++
      ((Ccm.ownHeader config).octets ++ Ccm.ownPayload config id 0)
  no_ccm : config.mepId = none → s.ccm = none
  lbm : ∀ target, config.remoteMac = some target → ∃ f, s.lbm = some f ∧ f.octets =
    Frame.ethernetHeader target own tag ++ ((Loopback.ownHeader config).octets ++
      (Octets.be32 0 ++ Tlv.sequence [⟨Tlv.senderIdType, [0]⟩]))
  no_lbm : config.remoteMac = none → s.lbm = none
  signalFail : s.signalFail.octets =
    Frame.ethernetHeader (MacAddress.ringGroup config.ringId) own tag ++
      ((RingAps.ownHeader config).octets ++
        ((RingAps.ofRequest .signalFail own).encode ++ [Tlv.endType]))

def ccmTemplate (config : Config) (own : MacAddress) : Except Error (Option Frame) :=
  match config.mepId with
  | some _ => (Ccm.build config own).map some
  | none => .ok none

def lbmTemplate (config : Config) (own : MacAddress) : Except Error (Option Frame) :=
  match config.remoteMac with
  | some _ => (Loopback.build config own 0).map some
  | none => .ok none

lemma create_eq (firstLbmId : UInt32) (start : Nat) : create config own firstLbmId start =
    ccmTemplate config own >>= fun ccm => lbmTemplate config own >>= fun lbm =>
      RingAps.buildSignalFail config own >>= fun signalFail =>
        .ok { ccm, lbm, signalFail, nextLbmId := firstLbmId, nextSlot := start } := by
  unfold create ccmTemplate lbmTemplate
  cases config.mepId <;> cases config.remoteMac <;> rfl

theorem create_ok (ht : config.tag = .ok tag) (firstLbmId : UInt32) (start : Nat) :
    ∃ s, create config own firstLbmId start = .ok s ∧ s.Templates config own tag ∧
      s.sequence = 0 ∧ s.nextSlot = start := by
  obtain ⟨sf, hsf, hsfo⟩ := RingAps.build_ok own ht (RingAps.ofRequest .signalFail own)
  obtain ⟨ccm, hc, hccm, hnoccm⟩ : ∃ ccm, ccmTemplate config own = .ok ccm ∧
      (∀ id, config.mepId = some id → ∃ f, ccm = some f ∧ f.octets =
        Frame.ethernetHeader (MacAddress.cfmGroup config.level) own tag ++
          ((Ccm.ownHeader config).octets ++ Ccm.ownPayload config id 0)) ∧
      (config.mepId = none → ccm = none) := by
    unfold ccmTemplate
    cases hm : config.mepId with
    | none => exact ⟨none, rfl, (fun _ h => nomatch h), fun _ => rfl⟩
    | some id =>
      obtain ⟨f, hf, hfo⟩ := Ccm.build_ok own hm ht
      refine ⟨some f, by rw [hf]; rfl, fun id' hid => ?_, (fun h => nomatch h)⟩
      cases hid
      exact ⟨f, rfl, hfo⟩
  obtain ⟨lbm, hl, hlbm, hnolbm⟩ : ∃ lbm, lbmTemplate config own = .ok lbm ∧
      (∀ target, config.remoteMac = some target → ∃ f, lbm = some f ∧ f.octets =
        Frame.ethernetHeader target own tag ++ ((Loopback.ownHeader config).octets ++
          (Octets.be32 0 ++ Tlv.sequence [⟨Tlv.senderIdType, [0]⟩]))) ∧
      (config.remoteMac = none → lbm = none) := by
    unfold lbmTemplate
    cases hr : config.remoteMac with
    | none => exact ⟨none, rfl, (fun _ h => nomatch h), fun _ => rfl⟩
    | some target =>
      obtain ⟨f, hf, hfo⟩ := Loopback.build_ok own hr ht 0
      refine ⟨some f, by rw [hf]; rfl, fun target' htarget => ?_, (fun h => nomatch h)⟩
      cases htarget
      exact ⟨f, rfl, hfo⟩
  refine ⟨{ ccm, lbm, signalFail := sf, nextLbmId := firstLbmId, nextSlot := start }, ?_,
    ⟨hccm, hnoccm, hlbm, hnolbm, hsfo⟩, rfl, rfl⟩
  rw [create_eq, hc, hl]
  unfold RingAps.buildSignalFail
  rw [hsf]
  rfl

lemma tag_of_create {firstLbmId : UInt32} {start : Nat} {s : Schedule}
    (h : create config own firstLbmId start = .ok s) : ∃ tag, config.tag = .ok tag := by
  rw [create_eq] at h
  obtain ⟨ccm, -, h⟩ := ok_of_bind h
  obtain ⟨lbm, -, h⟩ := ok_of_bind h
  obtain ⟨sf, hsf, -⟩ := ok_of_bind h
  unfold RingAps.buildSignalFail RingAps.build at hsf
  obtain ⟨tag, ht, -⟩ := ok_of_bind hsf
  exact ⟨tag, ht⟩

end Schedule

namespace Node

variable {n : Node} {f : Frame} {d s : MacAddress} {h : CfmHeader} {id : UInt32} {payload : Octets}

lemma stampedCcm_of_layout (hs : n.schedule.ccm = some f)
    (hf : f.octets = Frame.ethernetHeader d s tag ++ (h.octets ++ (Octets.be32 id ++ payload))) :
    ∃ f', n.stampedCcm? = some f' ∧ f'.octets = Frame.ethernetHeader d s tag ++
      (h.octets ++ (Octets.be32 n.schedule.sequence ++ payload)) := by
  obtain ⟨f', hf', -, ho⟩ := Frame.edited_setTransactionId n.schedule.sequence hf
  refine ⟨f', ?_, ho⟩
  unfold stampedCcm?
  rw [hs]
  change (f.edited (Frame.setTransactionId n.schedule.sequence)).toOption = some f'
  rw [hf']
  rfl

lemma stampedLbm_of_layout (hs : n.schedule.lbm = some f)
    (hf : f.octets = Frame.ethernetHeader d s tag ++ (h.octets ++ (Octets.be32 id ++ payload))) :
    ∃ f', n.stampedLbm? = some f' ∧ f'.octets = Frame.ethernetHeader d s tag ++
      (h.octets ++ (Octets.be32 n.schedule.nextLbmId ++ payload)) := by
  obtain ⟨f', hf', -, ho⟩ := Frame.edited_setTransactionId n.schedule.nextLbmId hf
  refine ⟨f', ?_, ho⟩
  unfold stampedLbm?
  rw [hs]
  change (f.edited (Frame.setTransactionId n.schedule.nextLbmId)).toOption = some f'
  rw [hf']
  rfl

end Node

namespace Schedule.Templates

variable {n : Node} {own : MacAddress}

lemma stampedCcm_eq (h : n.schedule.Templates config own tag) {id : UInt16}
    (hm : config.mepId = some id) : ∃ f, n.stampedCcm? = some f ∧ f.octets =
      Frame.ethernetHeader (MacAddress.cfmGroup config.level) own tag ++
        ((Ccm.ownHeader config).octets ++ Ccm.ownPayload config id n.schedule.sequence) := by
  obtain ⟨g, hg, hgo⟩ := h.ccm id hm
  exact Node.stampedCcm_of_layout hg hgo

lemma of_stampedCcm (h : n.schedule.Templates config own tag) {f : Frame}
    (hf : n.stampedCcm? = some f) : ∃ id, config.mepId = some id ∧ f.octets =
      Frame.ethernetHeader (MacAddress.cfmGroup config.level) own tag ++
        ((Ccm.ownHeader config).octets ++ Ccm.ownPayload config id n.schedule.sequence) := by
  cases hm : config.mepId with
  | none =>
    unfold Node.stampedCcm? at hf
    rw [h.no_ccm hm] at hf
    exact nomatch hf
  | some id =>
    obtain ⟨f', hf', ho⟩ := h.stampedCcm_eq hm
    rw [hf] at hf'
    cases hf'
    exact ⟨id, rfl, ho⟩

lemma of_stampedLbm (h : n.schedule.Templates config own tag) {f : Frame}
    (hf : n.stampedLbm? = some f) : ∃ target, config.remoteMac = some target ∧ f.octets =
      Frame.ethernetHeader target own tag ++ ((Loopback.ownHeader config).octets ++
        (Octets.be32 n.schedule.nextLbmId ++ Tlv.sequence [⟨Tlv.senderIdType, [0]⟩])) := by
  cases hr : config.remoteMac with
  | none =>
    unfold Node.stampedLbm? at hf
    rw [h.no_lbm hr] at hf
    exact nomatch hf
  | some target =>
    obtain ⟨g, hg, hgo⟩ := h.lbm target hr
    obtain ⟨f', hf', ho⟩ := Node.stampedLbm_of_layout hg hgo
    rw [hf] at hf'
    cases hf'
    exact ⟨target, rfl, ho⟩

end Schedule.Templates

namespace Node

variable (ids : IdSource) (start : Nat)

/-- A new node has received nothing and its first slot is due at `start`. -/
theorem create_ok (ht : config.tag = .ok tag) :
    ∃ n, create config own ids start = .ok n ∧ n.schedule.Templates config own tag ∧
      n.station = Station.create config own ids.draw.2 ∧
      n.schedule.sequence = 0 ∧ n.schedule.nextSlot = start := by
  obtain ⟨s, hs, htemplates, hseq, hnext⟩ := Schedule.create_ok own ht ids.draw.1 start
  refine ⟨⟨Station.create config own ids.draw.2, s⟩, ?_, htemplates, rfl, hseq, hnext⟩
  unfold create
  rw [hs]
  rfl

lemma of_create {n : Node} (h : create config own ids start = .ok n) :
    ∃ tag, config.tag = .ok tag ∧ n.schedule.Templates config own tag ∧
      n.station = Station.create config own ids.draw.2 ∧
      n.schedule.sequence = 0 ∧ n.schedule.nextSlot = start := by
  have h' := h
  unfold create at h'
  obtain ⟨s, hs, -⟩ := ok_of_bind h'
  obtain ⟨tag, ht⟩ := Schedule.tag_of_create own hs
  obtain ⟨n', hn', hrest⟩ := create_ok own ids start ht
  rw [h] at hn'
  cases hn'
  exact ⟨tag, ht, hrest⟩

end Node

end Templates
end RingContinuity
