import RingContinuity.Proofs.SlotTiming
import RingContinuity.Proofs.TransparentChanges

/-!
# Transmissions

What the ticks of a node offer to its link. A slot that transmits offers the two templates, stamped
with the number of the slot and with the next loopback id, and behind them any tick offers one
report if its sweep found a loss. Nothing of this goes by what the link says.
-/

namespace RingContinuity

/-! ### Stamped templates -/

namespace Frame

/-- The octets of a template with `id` written over the first word of its payload. -/
def stampedOctets (f : Frame) (id : UInt32) : Octets :=
  Octets.overwrite f.octets f.payloadOffset (Octets.be32 id)

lemma octets_of_edited {f f' : Frame} {id : UInt32}
    (h : f.edited (setTransactionId id) = .ok f') : f'.octets = f.stampedOctets id := by
  unfold setTransactionId at h
  rw [edited_get, edited_writeAt] at h
  by_cases hle : f.payloadOffset + (Octets.be32 id).length ≤ f.octets.length
  · rw [dif_pos hle] at h
    cases h
    rfl
  · rw [dif_neg hle] at h
    cases h

/-- A template that can be stamped at all. -/
lemma octets_of_stamped {template : Option Frame} {id : UInt32}
    (h : ∀ f, template = some f → ∃ f',
      (template.bind fun f => (f.edited (setTransactionId id)).toOption) = some f') :
    (template.bind fun f => (f.edited (setTransactionId id)).toOption).map Frame.octets =
      template.map (·.stampedOctets id) := by
  cases template with
  | none => rfl
  | some f =>
    obtain ⟨f', hf'⟩ := h f rfl
    rw [hf']
    exact congrArg some (octets_of_edited (eq_some_of_toOption hf'))

/-- The transaction id of a loopback message. -/
def lbmId? (f : Frame) : Option UInt32 :=
  if f.isCfm = true ∧ f.opcode = .ok .lbm then f.transactionId.toOption else none

section Layout

variable {f : Frame} {d s : MacAddress} {tag : Option VlanTag} {h : CfmHeader} {payload : Octets}

lemma lbmId?_of_layout {id : UInt32}
    (hf : f.octets = ethernetHeader d s tag ++ (h.octets ++ (Octets.be32 id ++ payload)))
    (hh : h.Fits) (hk : h.opcode = Opcode.lbm.code) : f.lbmId? = some id := by
  have ho : f.opcode = .ok .lbm := by
    rw [opcode_eq hf hh, hk]
    exact Opcode.ofCode_code .lbm
  unfold lbmId?
  rw [if_pos ⟨isCfm_eq hf, ho⟩, transactionId_eq hf]
  rfl

lemma lbmId?_of_other (hf : f.octets = ethernetHeader d s tag ++ (h.octets ++ payload))
    (hh : h.Fits) {k : Opcode} (hk : h.opcode = k.code) (hne : k ≠ .lbm) : f.lbmId? = none := by
  unfold lbmId?
  refine if_neg fun ⟨_, ho⟩ => ?_
  rw [opcode_eq hf hh, hk, Opcode.ofCode_code] at ho
  exact hne (Except.ok.inj ho)

end Layout
end Frame

namespace Schedule.Templates

variable {n : Node} {config : Config} {own : MacAddress} {tag : Option VlanTag}

lemma stampedCcm_octets (h : n.schedule.Templates config own tag) :
    n.stampedCcm?.map Frame.octets =
      n.schedule.ccm.map (·.stampedOctets n.schedule.sequence) := by
  refine Frame.octets_of_stamped fun f hf => ?_
  cases hm : config.mepId with
  | none =>
    rw [h.no_ccm hm] at hf
    exact nomatch hf
  | some id =>
    obtain ⟨f', hf', -⟩ := h.stampedCcm_eq hm
    exact ⟨f', hf'⟩

lemma stampedLbm_octets (h : n.schedule.Templates config own tag) :
    n.stampedLbm?.map Frame.octets =
      n.schedule.lbm.map (·.stampedOctets n.schedule.nextLbmId) := by
  refine Frame.octets_of_stamped fun f hf => ?_
  cases hr : config.remoteMac with
  | none =>
    rw [h.no_lbm hr] at hf
    exact nomatch hf
  | some target =>
    obtain ⟨g, hg, hgo⟩ := h.lbm target hr
    obtain ⟨f', hf', -⟩ := Node.stampedLbm_of_layout hg hgo
    exact ⟨f', hf'⟩

/-- The frames of a tick: those of the slot, if it transmits, and the report. -/
theorem octets_offered (h : n.schedule.Templates config own tag) (now : Nat) :
    (n.tick now).2.offered.map Frame.octets =
      (if n.schedule.nextSlot ≤ now ∧ n.schedule.transmits n.station.config.skips = true then
        (n.schedule.ccm.map (·.stampedOctets n.schedule.sequence)).toList ++
          (n.schedule.lbm.map (·.stampedOctets n.schedule.nextLbmId)).toList
      else []) ++
      (if (n.station.meps.sweep now).2 = [] then [] else [n.schedule.signalFail.octets]) := by
  rw [Node.offered_tick, Node.lost_tick, List.map_append]
  congr 1
  · by_cases hd : n.schedule.nextSlot ≤ now
    · rw [(Node.runSlot_due hd).1]
      by_cases ht : n.schedule.transmits n.station.config.skips = true
      · rw [if_pos ht, if_pos ⟨hd, ht⟩, List.map_append, ← h.stampedCcm_octets,
          ← h.stampedLbm_octets, Option.toList_map, Option.toList_map]
      · rw [if_neg ht, if_neg fun hh => ht hh.2]
        rfl
    · rw [Node.runSlot_early (Nat.not_le.1 hd), if_neg fun hh => hd hh.1]
      rfl
  · split <;> rfl

end Schedule.Templates

/-! ### Loopback ids -/

/-- The ids of the loopback messages that a tick offers. -/
def Node.lbmIds (n : Node) : NodeEvent → List UInt32
  | .tick now => (n.tick now).2.offered.filterMap Frame.lbmId?
  | _ => []

/-- The ids that an event tells a node to wait for: that of its own loopback message in a tick, and
any id that is noted from outside. -/
def Node.awaitedIds (n : Node) : NodeEvent → List UInt32
  | .note (.awaitLoopback id) => [id]
  | ev => n.lbmIds ev

/-- What a tick does about its loopback message: there is none, or it has the next id, is waited for
from then on, and the id is used up. -/
theorem Schedule.Templates.lbmIds_tick {n : Node} {config : Config} {own : MacAddress}
    {tag : Option VlanTag} (h : n.schedule.Templates config own tag) (now : Nat) :
    let n' := (n.tick now).1
    (n.lbmIds (.tick now) = [] ∧ n'.schedule.nextLbmId = n.schedule.nextLbmId ∧
      n'.station.outstanding = n.station.outstanding) ∨
    (n.lbmIds (.tick now) = [n.schedule.nextLbmId] ∧
      n'.schedule.nextLbmId = n.schedule.nextLbmId + 1 ∧
      n'.station.outstanding = n.station.outstanding.awaitLoopback n.schedule.nextLbmId) := by
  -- Neither a continuity check nor a report is taken for a loopback message.
  have hccm : n.stampedCcm?.toList.filterMap Frame.lbmId? = [] := by
    cases hs : n.stampedCcm? with
    | none => rfl
    | some f =>
      obtain ⟨id, -, hf⟩ := h.of_stampedCcm hs
      exact List.filterMap_cons_none
        (Frame.lbmId?_of_other hf (Ccm.fits_ownHeader config) (k := .ccm) rfl (by decide))
  have hreport : (if (n.tick now).2.lost = [] then [] else [n.schedule.signalFail]).filterMap
      Frame.lbmId? = [] := by
    split
    · rfl
    · exact List.filterMap_cons_none (Frame.lbmId?_of_other h.signalFail
        (RingAps.fits_ownHeader config) (k := .raps) rfl (by decide))
  have hids : n.lbmIds (.tick now) = (n.runSlot now).2.2.filterMap Frame.lbmId? := by
    change (n.tick now).2.offered.filterMap Frame.lbmId? = _
    rw [Node.offered_tick, List.filterMap_append, hreport, List.append_nil]
  rw [hids]
  change (_ ∧ (n.runSlot now).1.schedule.nextLbmId = _ ∧
      (n.runSlot now).1.station.outstanding = _) ∨
    (_ ∧ (n.runSlot now).1.schedule.nextLbmId = _ ∧ (n.runSlot now).1.station.outstanding = _)
  unfold Node.runSlot
  by_cases hd : now < n.schedule.nextSlot
  · rw [if_pos hd]
    exact .inl ⟨rfl, rfl, rfl⟩
  · rw [if_neg hd]
    by_cases ht : n.schedule.transmits n.station.config.skips = true
    · rw [if_pos ht]
      unfold Node.transmit
      cases hs : n.stampedLbm? with
      | none => exact .inl ⟨hccm, rfl, rfl⟩
      | some f =>
        obtain ⟨target, -, hf⟩ := h.of_stampedLbm hs
        refine .inr ⟨?_, rfl, rfl⟩
        dsimp only
        rw [List.filterMap_append, hccm]
        exact List.filterMap_cons_some
          (Frame.lbmId?_of_layout hf (Loopback.fits_ownHeader config) rfl)
    · rw [if_neg ht]
      exact .inl ⟨rfl, rfl, rfl⟩

namespace Node

variable {n : Node} {config : Config} {own : MacAddress} {tag : Option VlanTag}

/-- Every loopback message uses up one id. -/
theorem nextLbmId_turn (h : n.schedule.Templates config own tag) (ev : NodeEvent) :
    (n.turn ev).1.schedule.nextLbmId =
      n.schedule.nextLbmId + UInt32.ofNat (n.lbmIds ev).length := by
  cases ht : ev.tickTime? with
  | none =>
    have hids : n.lbmIds ev = [] := by
      cases ev <;> first | rfl | exact nomatch ht
    rw [schedule_turn ht, hids]
    exact (UInt32.add_zero _).symm
  | some now =>
    cases NodeEvent.eq_tick ht
    change (n.tick now).1.schedule.nextLbmId = _
    rcases h.lbmIds_tick now with ⟨hids, hnext, -⟩ | ⟨hids, hnext, -⟩
    · rw [hids, hnext]
      exact (UInt32.add_zero _).symm
    · rw [hids, hnext]
      rfl

/-- The last id that a node was told to wait for replaces the one that it waited for before. -/
theorem loopback_turn (h : n.schedule.Templates config own tag) (ev : NodeEvent) :
    (n.turn ev).1.station.outstanding.loopback =
      (n.awaitedIds ev).getLast?.or n.station.outstanding.loopback := by
  cases ev with
  | tick now =>
    change (n.tick now).1.station.outstanding.loopback = (n.lbmIds (.tick now)).getLast?.or _
    rcases h.lbmIds_tick now with ⟨hids, -, hout⟩ | ⟨hids, -, hout⟩
    · rw [hids, hout]
      rfl
    · rw [hids, hout]
      rfl
  | receive f now =>
    change (n.station.dispatch f now).1.outstanding.loopback = _
    rcases n.station.outstanding_dispatch f now with hsame | hcount | ⟨id, reply, hrecord⟩
    · rw [hsame]
      rfl
    · rw [hcount]
      rfl
    · rw [hrecord]
      rfl
  | linktrace target ttl now =>
    unfold turn linktrace Station.linktrace
    dsimp only [Station.drawId]
    cases Linktrace.buildRequest n.station.config n.station.own target n.station.ids.draw.1
      (ttl.getD Linktrace.defaultTtl) <;> rfl
  | note entry => cases entry <;> rfl
  | draw => rfl
  | reseed ids => rfl

end Node

/-! ### Runs -/

namespace WiredNode

variable {h : WiredNode} {config : Config} {own : MacAddress} {tag : Option VlanTag}

lemma nextLbmId_run (ht : h.node.schedule.Templates config own tag) (evs : List NodeEvent) :
    (h.run evs).node.schedule.nextLbmId =
      h.node.schedule.nextLbmId + UInt32.ofNat (h.collected Node.lbmIds evs).length := by
  induction evs using List.reverseRecOn with
  | nil => exact (UInt32.add_zero _).symm
  | append_singleton evs ev ih =>
    rw [run_append, collected_concat, List.length_append, UInt32.ofNat_add, ← UInt32.add_assoc,
      ← ih]
    exact Node.nextLbmId_turn (templates_run ht evs) ev

lemma loopback_run (ht : h.node.schedule.Templates config own tag) (evs : List NodeEvent) :
    (h.run evs).node.station.outstanding.loopback =
      (h.collected Node.awaitedIds evs).getLast?.or h.node.station.outstanding.loopback := by
  induction evs using List.reverseRecOn with
  | nil => rfl
  | append_singleton evs ev ih =>
    rw [run_append, collected_concat, List.getLast?_append, Option.or_assoc, ← ih]
    exact Node.loopback_turn (templates_run ht evs) ev

end WiredNode

/-! ### Templates sent by their kind -/

namespace Node

/-- Sends a template. What is stamped on it goes by the kind that its builder recorded, and what
cannot be stamped is not offered. -/
def send (n : Node) (f : Frame) : Node × List Frame :=
  match f.kind with
  | some .ccm => (n, (f.edited (Frame.setTransactionId n.schedule.sequence)).toOption.toList)
  | some .lbm =>
    match (f.edited (Frame.setTransactionId n.schedule.nextLbmId)).toOption with
    | some g => (n.awaitLbr, [g])
    | none => (n, [])
  | _ => (n, [f])

def sendAll (n : Node) : List Frame → Node × List Frame
  | [] => (n, [])
  | f :: fs =>
    let (n, offered) := n.send f
    let (n, more) := n.sendAll fs
    (n, offered ++ more)

variable {n : Node}

lemma sendAll_ccm (hc : ∀ f, n.schedule.ccm = some f → f.kind = some .ccm) (fs : List Frame) :
    n.sendAll (n.schedule.ccm.toList ++ fs) =
      ((n.sendAll fs).1, n.stampedCcm?.toList ++ (n.sendAll fs).2) := by
  unfold stampedCcm?
  cases hs : n.schedule.ccm with
  | none => rfl
  | some f =>
    have hsend : n.send f =
        (n, (f.edited (Frame.setTransactionId n.schedule.sequence)).toOption.toList) := by
      unfold send
      rw [hc f hs]
    change (((n.send f).1.sendAll fs).1, (n.send f).2 ++ ((n.send f).1.sendAll fs).2) = _
    rw [hsend]
    rfl

/-- The frames of a slot are the templates sent one after another. -/
theorem transmit_eq_sendAll (hc : ∀ f, n.schedule.ccm = some f → f.kind = some .ccm)
    (hl : ∀ f, n.schedule.lbm = some f → f.kind = some .lbm) :
    n.transmit = n.sendAll (n.schedule.ccm.toList ++ n.schedule.lbm.toList) := by
  rw [sendAll_ccm hc]
  unfold transmit stampedLbm?
  cases hs : n.schedule.lbm with
  | none => exact congrArg (n, ·) (List.append_nil _).symm
  | some f =>
    have hkind := hl f hs
    change _ = ((n.send f).1, n.stampedCcm?.toList ++ ((n.send f).2 ++ []))
    unfold send
    rw [hkind]
    dsimp only [Option.bind_some]
    cases (f.edited (Frame.setTransactionId n.schedule.nextLbmId)).toOption with
    | none => exact congrArg (n, ·) (List.append_nil _).symm
    | some g => rfl

end Node

/-! ### New nodes -/

/-- A new schedule holds the templates that its configuration asks for, each with its kind. -/
lemma Node.templates_of_create {config : Config} {own : MacAddress} {ids : IdSource} {start : Nat}
    {n : Node} (hn : create config own ids start = .ok n) :
    Schedule.ccmTemplate config own = .ok n.schedule.ccm ∧
    Schedule.lbmTemplate config own = .ok n.schedule.lbm ∧
    RingAps.buildSignalFail config own = .ok n.schedule.signalFail ∧
    n.schedule.nextLbmId = ids.draw.1 := by
  unfold create at hn
  obtain ⟨s, hs, hn⟩ := ok_of_bind hn
  rw [Schedule.create_eq] at hs
  obtain ⟨ccm, hccm, hs⟩ := ok_of_bind hs
  obtain ⟨lbm, hlbm, hs⟩ := ok_of_bind hs
  obtain ⟨signalFail, hsf, hs⟩ := ok_of_bind hs
  cases hs
  cases hn
  exact ⟨hccm, hlbm, hsf, rfl⟩

namespace Schedule

variable {config : Config} {own : MacAddress} {f : Frame}

lemma kind_ccmTemplate (h : ccmTemplate config own = .ok (some f)) : f.kind = some .ccm := by
  unfold ccmTemplate at h
  cases hm : config.mepId with
  | none =>
    rw [hm] at h
    exact nomatch h
  | some id =>
    rw [hm] at h
    cases hb : Ccm.build config own with
    | error cause =>
      rw [hb] at h
      exact nomatch h
    | ok g =>
      rw [hb] at h
      cases h
      exact Ccm.kind_of_build hb

lemma kind_lbmTemplate (h : lbmTemplate config own = .ok (some f)) : f.kind = some .lbm := by
  unfold lbmTemplate at h
  cases hr : config.remoteMac with
  | none =>
    rw [hr] at h
    exact nomatch h
  | some target =>
    rw [hr] at h
    cases hb : Loopback.build config own 0 with
    | error cause =>
      rw [hb] at h
      exact nomatch h
    | ok g =>
      rw [hb] at h
      cases h
      exact Loopback.kind_of_build hb

end Schedule

/-- At any time the frames of a slot are the templates that a node was created with, each stamped as
its kind wants it. -/
theorem transmit_run {config : Config} {own : MacAddress} {ids : IdSource} {start : Nat} {n : Node}
    (hn : Node.create config own ids start = .ok n) (w : Wire) (evs : List NodeEvent) :
    let m := ((WiredNode.mk n w).run evs).node
    m.transmit = m.sendAll (n.schedule.ccm.toList ++ n.schedule.lbm.toList) := by
  intro m
  obtain ⟨hccm, hlbm, -⟩ := Node.templates_of_create hn
  have hkin : n.Kin m := (WiredNode.mk n w).kin_run evs
  rw [← hkin.ccm, ← hkin.lbm]
  refine Node.transmit_eq_sendAll (fun f hf => ?_) fun f hf => ?_
  · rw [hkin.ccm] at hf
    exact Schedule.kind_ccmTemplate (hf ▸ hccm)
  · rw [hkin.lbm] at hf
    exact Schedule.kind_lbmTemplate (hf ▸ hlbm)

/-- The report of a new node: the request 11, which says that the signal has failed, with its sub
code and its status bits zero and the node's own address, sent to the group of the ring. -/
lemma RingAps.parse_signalFail {config : Config} {own : MacAddress} {f : Frame}
    (hf : buildSignalFail config own = .ok f) :
    parse f = .ok ⟨11, 0, ⟨false, false, false⟩, own⟩ ∧
      f.payload = .ok ([0xB0, 0x00] ++ own.octets ++ List.replicate 24 0x00 ++ [0x00]) ∧
      f.destination = .ok ⟨0x01, 0x19, 0xA7, 0x00, 0x00, config.ringId⟩ := by
  have hb := hf
  unfold buildSignalFail build at hb
  obtain ⟨tag, ht, -⟩ := ok_of_bind hb
  obtain ⟨f', hf', ho⟩ := build_ok own ht (ofRequest .signalFail own)
  cases hf.symm.trans hf'
  refine ⟨?_, ?_, Frame.destination_eq ho⟩
  · rw [parse_of_layout ho (fits_ownHeader config) rfl, decode_encode_ofRequest]
    rfl
  · rw [Frame.payload_eq ho, encode_ofRequest]
    rfl

/-- What the ticks of a node offer to its link, whatever happens in between and whatever the link
says to any frame. In the slot with the number `k`, and if `k`, counted in 32 bits, is a multiple,
a tick offers the continuity check with the sequence number `k`, if there is one, and the loopback
message, if there is one, with the id that comes after those of all loopback messages before. Behind
them it offers one report if its sweep lists any end points, and nothing else: the request 11 with
no status bit set and the address of the node, sent to the group that ends with the id of the ring.
The node waits for a reply to the last loopback message that it has offered, unless it was told to
wait for another. -/
theorem transmissions {config : Config} {own : MacAddress} {ids : IdSource} {start : Nat} {n : Node}
    (hn : Node.create config own ids start = .ok n) :
    ∃ ccm lbm signalFail,
      Schedule.ccmTemplate config own = .ok ccm ∧
      Schedule.lbmTemplate config own = .ok lbm ∧
      RingAps.buildSignalFail config own = .ok signalFail ∧
      RingAps.parse signalFail = .ok ⟨11, 0, ⟨false, false, false⟩, own⟩ ∧
      signalFail.payload = .ok ([0xB0, 0x00] ++ own.octets ++ List.replicate 24 0x00 ++ [0x00]) ∧
      signalFail.destination = .ok ⟨0x01, 0x19, 0xA7, 0x00, 0x00, config.ringId⟩ ∧
      ∀ (w : Wire) (before : List NodeEvent) (now : Nat),
        let first : WiredNode := ⟨n, w⟩
        let h := first.run before
        let tick := (h.node.tick now).2
        let k := (first.elapsed before).length
        let id := UInt32.ofNat (ids.draw.1.toNat + (first.collected Node.lbmIds before).length)
        (h.step (.tick now)).2.handed.map Prod.fst = tick.offered.map Frame.onLink ∧
        tick.offered.map Frame.octets =
          (if tick.slot = true ∧ k % UInt32.size % (config.skips.toNat + 1) = 0 then
            (ccm.map (·.stampedOctets (UInt32.ofNat k))).toList ++
              (lbm.map (·.stampedOctets id)).toList
          else []) ++
          (if (h.node.station.meps.sweep now).2 = [] then [] else [signalFail.octets]) ∧
        h.node.station.outstanding.loopback =
          (first.collected Node.awaitedIds before).getLast? := by
  obtain ⟨hccm, hlbm, hsf, hid⟩ := Node.templates_of_create hn
  obtain ⟨tag, -, ht, hstation, hseq, -⟩ := Node.of_create own ids start hn
  obtain ⟨hparse, hpayload, hdestination⟩ := RingAps.parse_signalFail hsf
  refine ⟨_, _, _, hccm, hlbm, hsf, hparse, hpayload, hdestination, fun w before now => ?_⟩
  intro first h tick k id
  have htemplates : h.node.schedule.Templates config own tag := WiredNode.templates_run ht before
  have hkin : n.Kin h.node := first.kin_run before
  have hsequence : h.node.schedule.sequence = UInt32.ofNat k := by
    rw [show h.node.schedule.sequence = n.schedule.sequence + UInt32.ofNat k from
      first.sequence_run before, hseq, UInt32.zero_add]
  have hnext : h.node.schedule.nextLbmId = id := by
    rw [show h.node.schedule.nextLbmId = n.schedule.nextLbmId + _ from
      WiredNode.nextLbmId_run ht before, hid]
    exact ((UInt32.ofNat_add _ _).trans (by rw [UInt32.ofNat_toNat])).symm
  have hskips : h.node.station.config.skips = config.skips := by
    rw [hkin.config, hstation]
    rfl
  have hslot : (h.node.schedule.nextSlot ≤ now ∧
      h.node.schedule.transmits h.node.station.config.skips = true) ↔
        (tick.slot = true ∧ k % UInt32.size % (config.skips.toNat + 1) = 0) := by
    rw [show tick.slot = decide (h.node.schedule.nextSlot ≤ now) from Node.slot_tick ..,
      decide_eq_true_iff, Schedule.transmits_iff, hskips, hsequence, UInt32.toNat_ofNat']
  refine ⟨?_, ?_, ?_⟩
  · change ((tick.offered.map Frame.onLink).zip
      (h.wire.offerAll now tick.offered).2).map Prod.fst = _
    exact List.map_fst_zip (by rw [List.length_map, Wire.length_offerAll])
  · rw [show tick.offered.map Frame.octets = _ from htemplates.octets_offered now, hsequence, hnext,
      hkin.ccm, hkin.lbm, hkin.signalFail]
    exact congrArg (· ++ _) (if_congr hslot rfl rfl)
  · rw [show h.node.station.outstanding.loopback = _ from WiredNode.loopback_run ht before,
      show first.node.station.outstanding.loopback = none by rw [hstation]; rfl, Option.or_none]

/-- The third slot of the second of two stations, whose first frame the link has refused. It is so
late that the first station, heard in the first slot, is lost. -/
theorem transmissions_pair :
    let own : MacAddress := ⟨2, 0, 0, 0, 0, 2⟩
    let first : WiredNode := ⟨Pair.node true, refusingWire⟩
    let h := first.run [.tick 0, .receive Pair.ccm 0, .tick 1000]
    Node.create (Pair.config true) own ⟨fun _ => 7, 0⟩ 0 = .ok (Pair.node true) ∧
    ∃ ccm lbm signalFail, Ccm.build (Pair.config true) own = .ok ccm ∧
      Loopback.build (Pair.config true) own 0 = .ok lbm ∧
      RingAps.buildSignalFail (Pair.config true) own = .ok signalFail ∧
      RingAps.parse signalFail = .ok ⟨11, 0, ⟨false, false, false⟩, own⟩ ∧
      signalFail.payload = .ok ([0xB0, 0x00, 2, 0, 0, 0, 0, 2] ++ List.replicate 25 0x00) ∧
      signalFail.destination = .ok ⟨0x01, 0x19, 0xA7, 0x00, 0x00, 2⟩ ∧
      (h.step (.tick 5000)).2.handed.map Prod.fst = (h.node.tick 5000).2.offered.map Frame.onLink ∧
      (h.node.tick 5000).2.offered.map Frame.octets =
        [ccm.stampedOctets 2, lbm.stampedOctets 9, signalFail.octets] ∧
      h.node.station.outstanding.loopback = some 8 := by
  intro own first h
  have htag : (Pair.config true).tag = .ok none := rfl
  have hmep : (Pair.config true).mepId = some 2 := rfl
  have hremote : (Pair.config true).remoteMac = some (Pair.address false) := rfl
  obtain ⟨ccm, hccm, -⟩ := Ccm.build_ok own hmep htag
  obtain ⟨lbm, hlbm, -⟩ := Loopback.build_ok own hremote htag 0
  obtain ⟨ccm', lbm', signalFail, hccm', hlbm', hsf, hparse, hpayload, hdestination, hrun⟩ :=
    transmissions (Pair.create_eq true)
  have hc : ccm' = some ccm := by
    change (Ccm.build (Pair.config true) own).map some = _ at hccm'
    rw [hccm] at hccm'
    cases hccm'
    rfl
  have hl : lbm' = some lbm := by
    change (Loopback.build (Pair.config true) own 0).map some = _ at hlbm'
    rw [hlbm] at hlbm'
    cases hlbm'
    rfl
  let before : List NodeEvent := [.tick 0, .receive Pair.ccm 0, .tick 1000]
  obtain ⟨hhanded, hoffered, hpending⟩ := hrun refusingWire before 5000
  rw [show WiredNode.mk (Pair.node true) refusingWire = first from rfl,
    show first.run before = h from rfl] at hhanded hoffered hpending
  have hslot : (h.node.tick 5000).2.slot = true := by decide +kernel
  have hk : (first.elapsed before).length = 2 := by decide +kernel
  have hids : (first.collected Node.lbmIds before).length = 2 := by decide +kernel
  have hawaited : (first.collected Node.awaitedIds before).getLast? = some 8 := by decide +kernel
  have hsweep : (h.node.station.meps.sweep 5000).2 ≠ [] := by decide +kernel
  rw [hk, hids, if_pos ⟨hslot, by decide⟩, if_neg hsweep, hc, hl] at hoffered
  rw [hawaited] at hpending
  exact ⟨Pair.create_eq true, ccm, lbm, signalFail, hccm, hlbm, hsf, hparse, hpayload, hdestination,
    hhanded, hoffered, hpending⟩

end RingContinuity
