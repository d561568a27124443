import RingContinuity.Proofs.CcmReception
import RingContinuity.Proofs.LoopbackReplies
import RingContinuity.Proofs.SignalFail

/-!
# Networks of stations

Any number of stations share a network that carries what they hand to their links and nothing else.
It may lose, repeat, delay and reorder frames and deliver them to any of the stations. `Origin` says
where a frame on the network comes from. It ties what a station knows about the others, and the
replies that it matches, to what they did.
-/

namespace RingContinuity

/-! ### Messages -/

structure Message where
  destination : MacAddress
  source : MacAddress
  tag : Option VlanTag
  header : CfmHeader
  payload : Octets

namespace Message

def octets (m : Message) : Octets :=
  Frame.ethernetHeader m.destination m.source m.tag ++ (m.header.octets ++ m.payload)

def padded (m : Message) (pad : Octets) : Message := { m with payload := m.payload ++ pad }

lemma octets_padded (m : Message) (pad : Octets) : (m.padded pad).octets = m.octets ++ pad := by
  unfold padded octets
  simp only [List.append_assoc]

end Message

/-! ### Reachable states -/

/-- Stations, with the frames that they have handed to their links and those that they have
received, in order. -/
structure Network (ι : Type) where
  node : ι → Node
  offered : List (ι × Frame)
  received : List (ι × Frame)

def NodeEvent.frame? : NodeEvent → Option Frame
  | .receive f _ => some f
  | _ => none

namespace Network

variable {ι : Type}

/-- A station has handed the frame to its link, so that it can be delivered any number of times. -/
def Carries (net : Network ι) (f : Frame) : Prop :=
  ∃ y g, (y, g) ∈ net.offered ∧ (Frame.decode g.onLink).1 = .ok (some f)

def step [DecidableEq ι] (net : Network ι) (x : ι) (ev : NodeEvent) : Network ι where
  node := Function.update net.node x ((net.node x).turn ev).1
  offered := net.offered ++ ((net.node x).turn ev).2.offered.map (x, ·)
  received := net.received ++ ev.frame?.toList.map (x, ·)

/-- New stations, and what becomes of them when they receive only what the network carries. -/
inductive Reachable [DecidableEq ι] (config : ι → Config) (own : ι → MacAddress) :
    Network ι → Prop
  | new (ids : ι → IdSource) (start : ι → Nat) (node : ι → Node)
      (hn : ∀ x, Node.create (config x) (own x) (ids x) (start x) = .ok (node x)) :
      Reachable config own ⟨node, [], []⟩
  | step {net : Network ι} (h : Reachable config own net) (x : ι) (ev : NodeEvent)
      (hev : ∀ f, ev.frame? = some f → net.Carries f) : Reachable config own (net.step x ev)

/-- The station `x` has handed a loopback message to its link, addressed to its target. -/
structure Asked (net : Network ι) (config : ι → Config) (x : ι) (target : MacAddress) (id : UInt32)
    (lbm : Frame) : Prop where
  offered : (x, lbm) ∈ net.offered
  remoteMac : (config x).remoteMac = some target
  opcode : lbm.opcode = .ok .lbm
  destination : lbm.destination = .ok target
  id : lbm.transactionId = .ok id

/-- Another station than `x`, with the address `mac`, has handed a continuity check with this
sequence number to its link as the end point `m`. -/
def Said (net : Network ι) (config : ι → Config) (own : ι → MacAddress) (x : ι) (m : UInt16)
    (mac : MacAddress) (sequence : UInt32) : Prop :=
  ∃ y, y ≠ x ∧ (config y).mepId = some m ∧ mac = own y ∧
    ∃ f, (y, f) ∈ net.offered ∧ Station.IsCcm f ∧ f.transactionId = .ok sequence

def Heard (net : Network ι) (config : ι → Config) (own : ι → MacAddress) (x : ι) (m : UInt16)
    (e : RemoteMep) : Prop :=
  ∀ deadline, e.expiresAt = some deadline →
    ∃ sequence, e.lastSequence = some sequence ∧ net.Said config own x m e.mac sequence

lemma Heard.mono {net net' : Network ι} {config : ι → Config} {own : ι → MacAddress} {x : ι}
    {m : UInt16} {e : RemoteMep} (h : net.Heard config own x m e)
    (ho : net.offered ⊆ net'.offered) : net'.Heard config own x m e := by
  intro deadline hd
  obtain ⟨sequence, hs, y, hy, hm, hmac, f, hf, hccm⟩ := h deadline hd
  exact ⟨sequence, hs, y, hy, hm, hmac, f, ho hf, hccm⟩

/-- Where a message of a given kind that the station `y` hands to its link comes from. -/
inductive Origin (net : Network ι) (config : ι → Config) (own : ι → MacAddress) (y : ι) :
    Opcode → Message → Prop
  | ccm {m : Message} {id : UInt16} {sequence : UInt32} {pad : Octets}
      (hm : (config y).mepId = some id) (hs : m.source = own y)
      (hh : m.header = Ccm.ownHeader (config y))
      (hp : m.payload = Ccm.ownPayload (config y) id sequence ++ pad) : Origin net config own y .ccm m
  | lbm {m : Message} {id : UInt32} {rest : Octets}
      (ht : (config y).remoteMac = some m.destination) (hs : m.source = own y)
      (hh : m.header = Loopback.ownHeader (config y))
      (hp : m.payload = Octets.be32 id ++ rest) : Origin net config own y .lbm m
  | lbr {m : Message} {z : ι} {target : MacAddress} {id : UInt32} {lbm f : Frame} {rest : Octets}
      (ha : net.Asked config z target id lbm) (hr : (y, f) ∈ net.received)
      (hf : f.octets = lbm.onLink) (hd : m.destination = own z) (hs : m.source = own y)
      (hh : m.header.Fits) (hk : m.header.opcode = Opcode.lbr.code)
      (hp : m.payload = Octets.be32 id ++ rest) : Origin net config own y .lbr m
  | other {m : Message} {k : Opcode} (hk : k = .ltm ∨ k = .ltr ∨ k = .raps)
      (hh : m.header.Fits) (ho : m.header.opcode = k.code) : Origin net config own y k m

namespace Origin

variable {net net' : Network ι} {config : ι → Config} {own : ι → MacAddress} {y : ι} {k : Opcode}
  {m : Message}

lemma fits (h : Origin net config own y k m) : m.header.Fits := by
  cases h with
  | ccm hm hs hh hp =>
    rw [hh]
    exact Ccm.fits_ownHeader _
  | lbm ht hs hh hp =>
    rw [hh]
    exact Loopback.fits_ownHeader _
  | lbr ha hr hf hd hs hh hk hp => exact hh
  | other hk hh ho => exact hh

lemma code (h : Origin net config own y k m) : m.header.opcode = k.code := by
  cases h with
  | ccm hm hs hh hp =>
    rw [hh]
    rfl
  | lbm ht hs hh hp =>
    rw [hh]
    rfl
  | lbr ha hr hf hd hs hh hk hp => exact hk
  | other hk hh ho => exact ho

lemma opcode_eq (h : Origin net config own y k m) {f : Frame} (hf : f.octets = m.octets) :
    f.opcode = .ok k := by
  rw [Frame.opcode_eq hf h.fits, h.code]
  exact Opcode.ofCode_code k

lemma padded (h : Origin net config own y k m) (pad : Octets) :
    Origin net config own y k (m.padded pad) := by
  have happend : ∀ {xs ys : Octets}, m.payload = xs ++ ys →
      (m.padded pad).payload = xs ++ (ys ++ pad) := by
    intro xs ys hp
    change m.payload ++ pad = _
    rw [hp, List.append_assoc]
  cases h with
  | ccm hm hs hh hp => exact .ccm hm hs hh (happend hp)
  | lbm ht hs hh hp => exact .lbm ht hs hh (happend hp)
  | lbr ha hr hf hd hs hh hk hp => exact .lbr ha hr hf hd hs hh hk (happend hp)
  | other hk hh ho => exact .other hk hh ho

lemma mono (h : Origin net config own y k m) (ho : net.offered ⊆ net'.offered)
    (hr : net.received ⊆ net'.received) : Origin net' config own y k m := by
  cases h with
  | ccm hm hs hh hp => exact .ccm hm hs hh hp
  | lbm ht hs hh hp => exact .lbm ht hs hh hp
  | lbr ha hr' hf hd hs hh hk hp =>
    exact .lbr ⟨ho ha.offered, ha.remoteMac, ha.opcode, ha.destination, ha.id⟩ (hr hr') hf hd hs hh hk
      hp
  | other hk hh ho' => exact .other hk hh ho'

end Origin

/-! ### What is always so -/

/-- What ties the stations to what happened on the network. -/
structure Sound (net : Network ι) (config : ι → Config) (own : ι → MacAddress) : Prop where
  configured : ∀ x, (net.node x).station.config = config x
  addressed : ∀ x, (net.node x).station.own = own x
  templates : ∀ x, ∃ tag, (net.node x).schedule.Templates (config x) (own x) tag
  origin : ∀ y g, (y, g) ∈ net.offered →
    ∃ k m, g.octets = m.octets ∧ Origin net config own y k m
  heard : ∀ x m, net.Heard config own x m ((net.node x).station.meps.entry m)
  ownMep : ∀ x m, (config x).mepId = some m → ((net.node x).station.meps.entry m).active = false

variable {net : Network ι} {config : ι → Config} {own : ι → MacAddress} {x : ι}

/-- A frame on the network is a padded message of known origin. -/
lemma Sound.of_carries (hs : net.Sound config own) {f : Frame} (hf : net.Carries f) :
    ∃ y g k m pad, (y, g) ∈ net.offered ∧ f.octets = g.onLink ∧ g.octets = m.octets ∧
      f.octets = (m.padded pad).octets ∧ net.Origin config own y k m := by
  obtain ⟨y, g, hg, hd⟩ := hf
  obtain ⟨k, m, hm, ho⟩ := hs.origin y g hg
  obtain ⟨f', hd', hf'⟩ := g.decode_onLink
  rw [hd] at hd'
  cases hd'
  refine ⟨y, g, k, m, List.replicate (minFrameLength - g.octets.length) 0, hg, hf', hm, ?_, ho⟩
  rw [hf', Message.octets_padded, ← hm]

/-- A continuity check that a station listens to comes from another one. -/
lemma Sound.said (hs : net.Sound config own) {f : Frame} (hf : net.Carries f)
    (hccm : Station.IsCcm f) {c : Ccm} (hc : Ccm.receive f (config x) = .ok c) :
    net.Said config own x c.mepId c.source c.sequence := by
  obtain ⟨y, g, k, m, pad, hg, -, hgm, hfm, ho⟩ := hs.of_carries hf
  obtain ⟨hp, hne⟩ := Ccm.of_receive hc
  have hk := (ho.padded pad).opcode_eq hfm
  rw [hccm.2] at hk
  cases hk
  have hgk := ho.opcode_eq hgm
  cases ho with
  | other hk hh ho => simp at hk
  | @ccm _ id sequence pad' hm hsrc hh hpay =>
    obtain ⟨d, s, tag, header, payload⟩ := m
    dsimp only at hsrc hh hpay
    subst hsrc hh hpay
    have hlayout : f.octets = Frame.ethernetHeader d (own y) tag ++
        ((Ccm.ownHeader (config y)).octets ++
          (Ccm.ownPayload (config y) id sequence ++ (pad' ++ pad))) := by
      rw [hfm, ← List.append_assoc (Ccm.ownPayload _ _ _)]
      rfl
    obtain ⟨-, maid, -, rfl⟩ := Ccm.of_parse_layout hlayout hp
    refine ⟨y, ?_, hm, rfl, g, hg, ⟨Frame.isCfm_eq hgm, hgk⟩, Ccm.transactionId_eq hgm⟩
    rintro rfl
    exact hne hm

/-- A loopback reply that a station matches answers a loopback message that it sent, and comes from
the target, which has received the message. -/
lemma Sound.of_loopbackMatched (hs : net.Sound config own) (hown : Function.Injective own)
    {f : Frame} (hf : net.Carries f) {now : Nat} {id : UInt32}
    (hd : ((net.node x).dispatch f now).2 = .done (.loopbackMatched id)) :
    ∃ target lbm, net.Asked config x target id lbm ∧
      ∃ y g, own y = target ∧ (y, g) ∈ net.received ∧ g.octets = lbm.onLink := by
  have hj : ((net.node x).dispatch f now).2.Justified (net.node x).station f :=
    (net.node x).station.justified_dispatch f now
  rw [hd] at hj
  obtain ⟨hk, hmatch⟩ := hj
  obtain ⟨hdest, hsource, hid⟩ := Loopback.of_matchReply hmatch
  rw [hs.addressed x] at hdest
  rw [hs.configured x] at hsource
  obtain ⟨y, g, k, m, pad, -, -, -, hfm, ho⟩ := hs.of_carries hf
  have hk' := (ho.padded pad).opcode_eq hfm
  rw [hk] at hk'
  cases hk'
  cases ho with
  | other hk hh ho => simp at hk
  | @lbr _ z target id' lbm f' rest ha hr hf' hd hsrc hh hk hp =>
    obtain ⟨d, s, tag, header, payload⟩ := m
    dsimp only at hsrc hd hp
    subst hsrc hd hp
    -- The reply goes to the station that sent the message, and no other has this address.
    have hz : z = x := by
      apply hown
      have h := Frame.destination_eq hfm
      rw [hdest] at h
      exact (Except.ok.inj h).symm
    subst hz
    have hy : own y = target := by
      have h := Frame.source_eq hfm
      rw [hsource target ha.remoteMac] at h
      exact (Except.ok.inj h).symm
    have hid' : id' = id := by
      have hlayout : f.octets = Frame.ethernetHeader (own z) (own y) tag ++
          (header.octets ++ (Octets.be32 id' ++ (rest ++ pad))) := by
        rw [hfm, ← List.append_assoc (Octets.be32 id')]
        rfl
      have h := Frame.transactionId_eq hlayout
      rw [hid] at h
      exact (Except.ok.inj h).symm
    subst hid'
    exact ⟨target, lbm, ha, y, f', hy, hr, hf'⟩

lemma Sound.origin_answer (hs : net.Sound config own) {f reply : Frame} (hf : net.Carries f)
    (hk : f.opcode = .ok .lbm) (hr : f.edited (Loopback.answer (own x)) = .ok reply)
    {net' : Network ι} (hsub : net.offered ⊆ net'.offered) (hx : (x, f) ∈ net'.received) :
    ∃ m, reply.octets = m.octets ∧ net'.Origin config own x .lbr m := by
  obtain ⟨z, g, k, m, pad, hg, hfg, hgm, hfm, ho⟩ := hs.of_carries hf
  have hk' := (ho.padded pad).opcode_eq hfm
  rw [hk] at hk'
  cases hk'
  have hgk := ho.opcode_eq hgm
  cases ho with
  | other hk hh ho => simp at hk
  | @lbm _ id rest ht hsrc hh hp =>
    obtain ⟨d, s, tag, header, payload⟩ := m
    dsimp only at ht hsrc hh hp
    subst hsrc hh hp
    have hro := Loopback.of_answer hfm (Loopback.fits_ownHeader _) rfl hr
    have hfits := Loopback.fits_ownHeader (config z)
    refine ⟨⟨own z, own x, tag, { Loopback.ownHeader (config z) with opcode := Opcode.lbr.code },
      Octets.be32 id ++ (rest ++ pad)⟩, ?_, .lbr ⟨hsub hg, ht, hgk, Frame.destination_eq hgm,
        Frame.transactionId_eq hgm⟩ hx hfg rfl rfl ⟨hfits.level, hfits.version⟩ rfl rfl⟩
    rw [hro]
    unfold Message.octets
    rw [← List.append_assoc (Octets.be32 id)]
    rfl

/-! ### Steps -/

section Step

variable {ev : NodeEvent}

lemma Sound.heard_turn (hs : net.Sound config own) (hev : ∀ f, ev.frame? = some f → net.Carries f)
    (m : UInt16) :
    net.Heard config own x m (((net.node x).turn ev).1.station.meps.entry m) := by
  have hm := hs.heard x m
  rcases (net.node x).meps_turn_cases ev with hsame | ⟨now, rfl, hsweep⟩ | ⟨f, now, rfl, hf, happly⟩
  · rw [hsame]
    exact hm
  · rw [hsweep, MepTable.entry_sweep]
    exact hm
  · rw [happly, hs.configured x]
    rcases (net.node x).station.meps.entry_apply_cases f (config x) now m with
      he | ⟨c, hc, rfl, he | he | he⟩ <;> rw [he]
    · exact hm
    · exact hm
    · exact hm
    · exact fun _ _ => ⟨c.sequence, rfl, hs.said (hev f rfl) hf hc⟩

lemma Sound.ownMep_turn (hs : net.Sound config own) {m : UInt16} (hm : (config x).mepId = some m) :
    (((net.node x).turn ev).1.station.meps.entry m).active = false := by
  have hinactive := hs.ownMep x m hm
  rcases (net.node x).meps_turn_cases ev with hsame | ⟨now, rfl, hsweep⟩ | ⟨f, now, rfl, hf, happly⟩
  · rw [hsame]
    exact hinactive
  · rw [hsweep, MepTable.entry_sweep]
    exact hinactive
  · rw [happly, hs.configured x]
    rcases (net.node x).station.meps.entry_apply_cases f (config x) now m with
      he | ⟨c, hc, rfl, -⟩
    · rw [he]
      exact hinactive
    · exact absurd hm (Ccm.of_receive hc).2

variable [DecidableEq ι]

lemma node_step (net : Network ι) (x : ι) (ev : NodeEvent) (z : ι) :
    (net.step x ev).node z = if z = x then ((net.node x).turn ev).1 else net.node z :=
  Function.update_apply ..

lemma kin_step (net : Network ι) (x : ι) (ev : NodeEvent) (z : ι) :
    (net.node z).Kin ((net.step x ev).node z) := by
  rw [node_step]
  split
  · next hz =>
    subst hz
    exact (net.node z).kin_turn ev
  · exact Node.Kin.refl _

lemma offered_subset_step (net : Network ι) (x : ι) (ev : NodeEvent) :
    net.offered ⊆ (net.step x ev).offered := List.subset_append_left ..

lemma received_subset_step (net : Network ι) (x : ι) (ev : NodeEvent) :
    net.received ⊆ (net.step x ev).received := List.subset_append_left ..

lemma Sound.origin_turn (hs : net.Sound config own) (hev : ∀ f, ev.frame? = some f → net.Carries f)
    {g : Frame} (hg : g ∈ ((net.node x).turn ev).2.offered) :
    ∃ k m, g.octets = m.octets ∧ (net.step x ev).Origin config own x k m := by
  obtain ⟨tag, ht⟩ := hs.templates x
  cases ev with
  | tick now =>
    rcases Node.mem_offered_tick hg with hccm | hlbm | rfl
    · obtain ⟨id, hm, ho⟩ := ht.of_stampedCcm hccm
      rw [← List.append_nil (Ccm.ownPayload _ _ _)] at ho
      exact ⟨.ccm, ⟨_, _, _, _, _⟩, ho, .ccm hm rfl rfl rfl⟩
    · obtain ⟨target, hr, ho⟩ := ht.of_stampedLbm hlbm
      exact ⟨.lbm, ⟨_, _, _, _, _⟩, ho, .lbm hr rfl rfl rfl⟩
    · exact ⟨.raps, ⟨_, _, _, _, _⟩, ht.signalFail,
        .other (.inr (.inr rfl)) (RingAps.fits_ownHeader _) rfl⟩
  | receive f now =>
    have hj : ((net.node x).dispatch f now).2.Justified (net.node x).station f :=
      (net.node x).station.justified_dispatch f now
    change g ∈ ((net.node x).dispatch f now).2.offered?.toList at hg
    cases hreaction : ((net.node x).dispatch f now).2 with
    | refused cause =>
      rw [hreaction] at hg
      exact nomatch hg
    | done what =>
      rw [hreaction] at hg
      exact nomatch hg
    | reply reply what =>
      rw [hreaction] at hg hj
      rw [List.mem_singleton.1 hg]
      rcases hj with ⟨hk, hr⟩ | ⟨r, hr⟩
      · rw [hs.addressed x] at hr
        have hx : (x, f) ∈ (net.step x (.receive f now)).received :=
          List.mem_append_right _ List.mem_cons_self
        obtain ⟨m, hm, ho⟩ := hs.origin_answer (hev f rfl) hk hr
          (net.offered_subset_step x (.receive f now)) hx
        exact ⟨.lbr, m, hm, ho⟩
      · have ho := Linktrace.of_buildReply hr
        exact ⟨.ltr, ⟨_, _, _, _, _⟩, ho,
          .other (.inr (.inl rfl)) (Linktrace.fits_replyHeader _) rfl⟩
  | linktrace target ttl now =>
    obtain ⟨id, ttl, hb⟩ := Node.mem_offered_linktrace hg
    obtain ⟨tag, ho⟩ := Linktrace.of_buildRequest hb
    exact ⟨.ltm, ⟨_, _, _, _, _⟩, ho,
      .other (.inl rfl) (Linktrace.fits_requestHeader _) rfl⟩
  | note entry => exact nomatch hg
  | draw => exact nomatch hg
  | reseed ids => exact nomatch hg

theorem Sound.step (hs : net.Sound config own) (hev : ∀ f, ev.frame? = some f → net.Carries f) :
    (net.step x ev).Sound config own where
  configured z := (net.kin_step x ev z).config.trans (hs.configured z)
  addressed z := (net.kin_step x ev z).own.trans (hs.addressed z)
  templates z := by
    obtain ⟨tag, ht⟩ := hs.templates z
    exact ⟨tag, ht.of_kin (net.kin_step x ev z)⟩
  origin y g hg := by
    rcases List.mem_append.1 hg with hold | hnew
    · obtain ⟨k, m, hm, ho⟩ := hs.origin y g hold
      exact ⟨k, m, hm, ho.mono (net.offered_subset_step x ev) (net.received_subset_step x ev)⟩
    · obtain ⟨g', hg', he⟩ := List.mem_map.1 hnew
      cases he
      exact hs.origin_turn hev hg'
  heard z m := by
    have hz : net.Heard config own z m (((net.step x ev).node z).station.meps.entry m) := by
      rw [node_step]
      split
      · next h =>
        subst h
        exact hs.heard_turn hev m
      · exact hs.heard z m
    exact hz.mono (net.offered_subset_step x ev)
  ownMep z m hm := by
    rw [node_step]
    split
    · next h =>
      subst h
      exact hs.ownMep_turn hm
    · exact hs.ownMep z m hm

theorem Reachable.sound (h : Reachable config own net) : net.Sound config own := by
  induction h with
  | new ids start node hn =>
    have hstation : ∀ x, (node x).station = Station.create (config x) (own x) (ids x).draw.2 :=
      fun x => Node.station_create (hn x)
    refine ⟨fun x => ?_, fun x => ?_, fun x => ?_, nofun, fun x m => ?_, fun x m _ => ?_⟩
    · rw [hstation x]
      rfl
    · rw [hstation x]
      rfl
    · obtain ⟨tag, -, ht, -⟩ := Node.of_create (own x) (ids x) (start x) (hn x)
      exact ⟨tag, ht⟩
    · rw [hstation x]
      exact fun _ h => nomatch h
    · rw [hstation x]
      rfl
  | step _ x ev hev ih => exact ih.step hev

end Step

end Network

/-- Stations with different addresses, on a network that carries only what they hand to their links.
Whatever happened before, an end point that a station follows is another station with the address and
the last sequence number that the table says, no station follows itself, and a loopback reply that a
station matches answers a loopback message that it sent and its target received. -/
theorem closed_network_safety {ι : Type} [DecidableEq ι] {config : ι → Config}
    {own : ι → MacAddress} {net : Network ι} (hown : Function.Injective own)
    (h : Network.Reachable config own net) (x : ι) :
    (∀ m deadline, ((net.node x).station.meps.entry m).expiresAt = some deadline →
      ∃ y, y ≠ x ∧ (config y).mepId = some m ∧
        ((net.node x).station.meps.entry m).mac = own y ∧
        ∃ f sequence, (y, f) ∈ net.offered ∧ Station.IsCcm f ∧ f.transactionId = .ok sequence ∧
          ((net.node x).station.meps.entry m).lastSequence = some sequence) ∧
    (∀ m, (config x).mepId = some m → ((net.node x).station.meps.entry m).active = false) ∧
    ∀ f now id, net.Carries f →
      ((net.node x).dispatch f now).2 = .done (.loopbackMatched id) →
      ∃ target lbm, net.Asked config x target id lbm ∧
        ∃ y g, own y = target ∧ (y, g) ∈ net.received ∧ g.octets = lbm.onLink := by
  have hs := h.sound
  refine ⟨fun m deadline hm => ?_, hs.ownMep x, fun f now id hf hd => ?_⟩
  · obtain ⟨sequence, hlast, y, hy, hid, hmac, f, hf, hccm, hseq⟩ := hs.heard x m deadline hm
    exact ⟨y, hy, hid, hmac, f, sequence, hf, hccm, hseq, hlast⟩
  · exact hs.of_loopbackMatched hown hf hd

/-! ### Two stations -/

namespace Pair

def address : Bool → MacAddress
  | false => ⟨2, 0, 0, 0, 0, 1⟩
  | true => ⟨2, 0, 0, 0, 0, 2⟩

/-- The end points 1 and 2, each of them the target of the other. -/
def config (x : Bool) : Config where
  mepId := some (if x then 2 else 1)
  remoteMac := some (address !x)

lemma isSome_create (x : Bool) :
    (Node.create (config x) (address x) ⟨fun _ => 7, 0⟩ 0).toOption.isSome = true := by
  cases x <;> decide +kernel

def node (x : Bool) : Node :=
  (Node.create (config x) (address x) ⟨fun _ => 7, 0⟩ 0).toOption.get (isSome_create x)

lemma create_eq (x : Bool) :
    Node.create (config x) (address x) ⟨fun _ => 7, 0⟩ 0 = .ok (node x) := by
  have h : (Node.create (config x) (address x) ⟨fun _ => 7, 0⟩ 0).toOption = some (node x) :=
    (Option.some_get _).symm
  cases hn : Node.create (config x) (address x) ⟨fun _ => 7, 0⟩ 0 with
  | error cause =>
    rw [hn] at h
    exact nomatch h
  | ok n =>
    rw [hn] at h
    rw [Option.some.inj h]

def ccm : Frame where
  octets := [1, 0x80, 0xC2, 0, 0, 0x30, 2, 0, 0, 0, 0, 1, 0x89, 0x02, 0, 1, 4, 70, 0, 0, 0, 0, 0, 1,
    4, 3, 72, 67, 76, 2, 8, 72, 67, 76, 95, 69, 82, 80, 83] ++ List.replicate 49 0 ++
    [1, 0, 1, 0, 2, 0, 1, 2, 4, 0, 1, 1, 0]
  kind := none
  length_le := by decide

def lbm : Frame where
  octets := [2, 0, 0, 0, 0, 2, 2, 0, 0, 0, 0, 1, 0x89, 0x02, 0, 3, 0, 4, 0, 0, 0, 7, 1, 0, 1, 0] ++
    List.replicate 34 0
  kind := none
  length_le := by decide

def lbr : Frame where
  octets := [2, 0, 0, 0, 0, 1, 2, 0, 0, 0, 0, 2, 0x89, 0x02, 0, 2, 0, 4, 0, 0, 0, 7, 1, 0, 1, 0] ++
    List.replicate 34 0
  kind := none
  length_le := by decide

/-- The first station has sent its continuity check and its loopback message. -/
def sent : Network Bool := (Network.mk node [] []).step false (.tick 0)

/-- The second one has received both and answered. -/
def answered : Network Bool :=
  (sent.step true (.receive ccm 0)).step true (.receive lbm 0)

lemma carries_of_any {net : Network Bool} {f : Frame}
    (h : net.offered.any (fun p => (Frame.decode p.2.onLink).1 = .ok (some f)) = true) :
    net.Carries f := by
  obtain ⟨⟨y, g⟩, hg, hd⟩ := List.any_eq_true.1 h
  exact ⟨y, g, hg, of_decide_eq_true hd⟩

lemma reachable_answered : Network.Reachable config address answered := by
  have hccm : sent.Carries ccm := carries_of_any (by decide +kernel)
  have hlbm : (sent.step true (.receive ccm 0)).Carries lbm := carries_of_any (by decide +kernel)
  have hsent : Network.Reachable config address sent :=
    (Network.Reachable.new _ _ node create_eq).step false (.tick 0) nofun
  refine (hsent.step true (.receive ccm 0) fun f hf => ?_).step true (.receive lbm 0) fun f hf => ?_
  · cases hf
    exact hccm
  · cases hf
    exact hlbm

lemma matched_answered :
    ((answered.node false).dispatch lbr 0).2 = .done (.loopbackMatched 7) := by
  have h : (match ((answered.node false).dispatch lbr 0).2 with
      | .done what => decide (what = .loopbackMatched 7)
      | _ => false) = true := by decide +kernel
  split at h
  · next hr =>
    rw [hr, of_decide_eq_true h]
  · exact nomatch h

end Pair

theorem closed_network_safety_pair :
    Network.Reachable Pair.config Pair.address Pair.answered ∧
    ((Pair.answered.node true).station.meps.entry 1).expiresAt = some 3500 ∧
    ((Pair.answered.node true).station.meps.entry 1).mac = Pair.address false ∧
    ((Pair.answered.node true).station.meps.entry 2).active = false ∧
    ∃ target lbm, Pair.answered.Asked Pair.config false target 7 lbm ∧
      ∃ y g, Pair.address y = target ∧ (y, g) ∈ Pair.answered.received ∧
        g.octets = lbm.onLink := by
  have hown : Function.Injective Pair.address := by
    intro x y h
    cases x <;> cases y <;> first | rfl | exact absurd h (by decide)
  have hreach := Pair.reachable_answered
  have hlbr : Pair.answered.Carries Pair.lbr := Pair.carries_of_any (by decide +kernel)
  have hdeadline : ((Pair.answered.node true).station.meps.entry 1).expiresAt = some 3500 := by
    decide +kernel
  obtain ⟨hheard, hself, -⟩ := closed_network_safety hown hreach true
  obtain ⟨-, -, hloopback⟩ := closed_network_safety hown hreach false
  obtain ⟨y, hy, -, hmac, -⟩ := hheard 1 3500 hdeadline
  have hfalse : y = false := by simpa using hy
  rw [hfalse] at hmac
  exact ⟨hreach, hdeadline, hmac, hself 2 rfl, hloopback _ _ _ hlbr Pair.matched_answered⟩

end RingContinuity
