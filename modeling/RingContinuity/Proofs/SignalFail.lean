import RingContinuity.Proofs.RingMessages
import RingContinuity.Proofs.Slots
import Mathlib.Data.List.Induction

/-!
# Reports of losses to the ring

A node reports all losses that a tick finds with one Signal-Fail behind the frames of the slot, and
it does not repeat a report that the link refuses. So the loss of an end point is signalled if and
only if the link takes the report of the tick that found it, or that of a later tick that found
another loss.
-/

namespace RingContinuity

/-- The octets are a frame by which a station reports that the ring has failed. -/
def IsSignalFail (xs : Octets) : Prop :=
  ∃ f p, (Frame.decode xs).1 = .ok (some f) ∧ RingAps.parse f = .ok p ∧
    p.request? = some .signalFail

lemma not_isSignalFail_of_layout {f : Frame} {d s : MacAddress} {tag : Option VlanTag}
    {h : CfmHeader} {payload : Octets}
    (hf : f.octets = Frame.ethernetHeader d s tag ++ (h.octets ++ payload)) (hh : h.Fits)
    (ho : h.opcode ≠ Opcode.raps.code) : ¬ IsSignalFail f.onLink := by
  rintro ⟨g', p, hg', hp, -⟩
  obtain ⟨g, hg, hgo⟩ := f.decode_onLink
  rw [hg] at hg'
  cases hg'
  rw [hf, List.append_assoc, List.append_assoc] at hgo
  rw [RingAps.parse_of_other hgo hh ho] at hp
  exact nomatch hp

namespace Schedule.Templates

variable {n : Node} {config : Config} {own : MacAddress} {tag : Option VlanTag}

theorem isSignalFail (h : n.schedule.Templates config own tag) :
    IsSignalFail n.schedule.signalFail.onLink := by
  obtain ⟨g, hg, hgo⟩ := n.schedule.signalFail.decode_onLink
  rw [h.signalFail, List.append_assoc, List.append_assoc, List.append_assoc] at hgo
  have hp := RingAps.parse_of_layout hgo (RingAps.fits_ownHeader config) rfl
  exact ⟨g, _, hg, hp, RingAps.request?_decode_encode .signalFail own⟩

lemma not_isSignalFail_ccm (h : n.schedule.Templates config own tag) {f : Frame}
    (hf : n.stampedCcm? = some f) : ¬ IsSignalFail f.onLink := by
  obtain ⟨id, -, hfo⟩ := h.of_stampedCcm hf
  exact not_isSignalFail_of_layout hfo (Ccm.fits_ownHeader config)
    (show Opcode.ccm.code ≠ Opcode.raps.code by decide)

lemma not_isSignalFail_lbm (h : n.schedule.Templates config own tag) {f : Frame}
    (hf : n.stampedLbm? = some f) : ¬ IsSignalFail f.onLink := by
  obtain ⟨target, -, hfo⟩ := h.of_stampedLbm hf
  exact not_isSignalFail_of_layout hfo (Loopback.fits_ownHeader config)
    (show Opcode.lbm.code ≠ Opcode.raps.code by decide)

theorem not_isSignalFail_slot (h : n.schedule.Templates config own tag) {now : Nat} {f : Frame}
    (hf : f ∈ (n.runSlot now).2.2) : ¬ IsSignalFail f.onLink := by
  rcases Node.mem_runSlot hf with hc | hl
  · exact h.not_isSignalFail_ccm hc
  · exact h.not_isSignalFail_lbm hl

/-- A node without an end point id and a target has nothing to send in its slots. -/
lemma runSlot_silent (h : n.schedule.Templates config own tag) (hm : config.mepId = none)
    (hr : config.remoteMac = none) (now : Nat) : (n.runSlot now).2.2 = [] := by
  by_cases hd : now < n.schedule.nextSlot
  · rw [Node.runSlot_early hd]
  · rw [(Node.runSlot_due (Nat.not_lt.1 hd)).1]
    unfold Node.stampedCcm? Node.stampedLbm?
    rw [h.no_ccm hm, h.no_lbm hr]
    split <;> rfl

/-- The templates stay the same whatever happens to the node. -/
lemma of_kin (h : n.schedule.Templates config own tag) {n' : Node} (hk : n.Kin n') :
    n'.schedule.Templates config own tag := by
  refine ⟨fun id hid => ?_, fun hm => hk.ccm.trans (h.no_ccm hm), fun target ht => ?_,
    fun hr => hk.lbm.trans (h.no_lbm hr), ?_⟩
  · rw [hk.ccm]
    exact h.ccm id hid
  · rw [hk.lbm]
    exact h.lbm target ht
  · rw [hk.signalFail]
    exact h.signalFail

end Schedule.Templates

/-! ### What a tick hands to the link -/

namespace Wire

lemma length_offerAll (w : Wire) (now : Nat) (fs : List Frame) :
    (w.offerAll now fs).2.length = fs.length := by
  induction fs generalizing w with
  | nil => rfl
  | cons f fs ih =>
    change ((w.offer now f).1.offerAll now fs).2.length + 1 = _
    rw [ih, List.length_cons]

lemma verdicts_append (w : Wire) (now : Nat) (fs gs : List Frame) :
    (w.offerAll now (fs ++ gs)).2 =
      (w.offerAll now fs).2 ++ ((w.offerAll now fs).1.offerAll now gs).2 := by
  induction fs generalizing w with
  | nil => rfl
  | cons f fs ih =>
    change (w.offer now f).2 :: ((w.offer now f).1.offerAll now (fs ++ gs)).2 = _
    rw [ih]
    rfl

end Wire

namespace Showing

/-- In a tick, the link took a Signal-Fail. -/
def Signals (s : Showing) : Prop :=
  (∃ report, s.answer = .ticked report) ∧ ∃ xs, (xs, .ok ()) ∈ s.handed ∧ IsSignalFail xs

/-- A tick found a loss, and the link took the last frame of the tick. -/
def Reports (s : Showing) : Prop :=
  (∃ report, s.answer = .ticked report ∧ report.newlyDefective ≠ []) ∧
    ∃ xs, s.handed.getLast? = some (xs, .ok ())

end Showing

namespace WiredNode

variable {h : WiredNode} {config : Config} {own : MacAddress} {tag : Option VlanTag} {now : Nat}

lemma eq_tick_of_ticked {ev : NodeEvent} {report : TickReport}
    (hr : (h.step ev).2.answer = .ticked report) :
    ∃ now, ev = .tick now ∧ report.newlyDefective = (h.node.tick now).2.lost := by
  cases ev with
  | tick now =>
    refine ⟨now, rfl, ?_⟩
    cases hr
    rfl
  | receive f now => exact nomatch hr
  | linktrace target ttl now =>
    unfold step Node.turn at hr
    dsimp only at hr
    cases hl : h.node.linktrace target ttl with
    | mk n result =>
      rw [hl] at hr
      cases result <;> exact nomatch hr
  | note entry => exact nomatch hr
  | draw => exact nomatch hr
  | reseed ids => exact nomatch hr

def slotHanded (h : WiredNode) (now : Nat) : List (Octets × Verdict) :=
  ((h.node.runSlot now).2.2.map Frame.onLink).zip
    (h.wire.offerAll now (h.node.runSlot now).2.2).2

/-- What the link says to the frame behind those of the slot, if the tick reports a loss. -/
def reportVerdict (h : WiredNode) (now : Nat) : Verdict :=
  ((h.wire.offerAll now (h.node.runSlot now).2.2).1.offer now h.node.schedule.signalFail).2

lemma mem_slotHanded {x : Octets × Verdict} (hx : x ∈ h.slotHanded now) :
    ∃ f ∈ (h.node.runSlot now).2.2, x.1 = f.onLink := by
  obtain ⟨f, hf, he⟩ := List.mem_map.1 (List.of_mem_zip hx).1
  exact ⟨f, hf, he.symm⟩

theorem handed_tick (h : WiredNode) (now : Nat) : (h.step (.tick now)).2.handed =
    h.slotHanded now ++ (if (h.node.tick now).2.lost = [] then []
      else [(h.node.schedule.signalFail.onLink, h.reportVerdict now)]) := by
  have hall : (h.step (.tick now)).2.handed =
      ((h.node.tick now).2.offered.map Frame.onLink).zip
        (h.wire.offerAll now (h.node.tick now).2.offered).2 := rfl
  have hlen : ((h.node.runSlot now).2.2.map Frame.onLink).length =
      (h.wire.offerAll now (h.node.runSlot now).2.2).2.length := by
    rw [List.length_map, Wire.length_offerAll]
  rw [hall, Node.offered_tick, Wire.verdicts_append, List.map_append, List.zip_append hlen]
  unfold slotHanded
  split <;> rfl

theorem signals_step_iff (ht : h.node.schedule.Templates config own tag) (ev : NodeEvent) :
    (h.step ev).2.Signals ↔ (h.step ev).2.Reports := by
  constructor
  · rintro ⟨⟨report, hr⟩, xs, hx, hsf⟩
    obtain ⟨now, rfl, hl⟩ := eq_tick_of_ticked hr
    have hh := h.handed_tick now
    rw [hh] at hx
    -- The frames of the slot are no Signal-Fails, so that the report is the one that was taken.
    rcases List.mem_append.1 hx with hin | hin
    · obtain ⟨f, hf, rfl⟩ := mem_slotHanded hin
      exact absurd hsf (ht.not_isSignalFail_slot hf)
    · by_cases hlost : (h.node.tick now).2.lost = []
      · rw [if_pos hlost] at hin
        exact nomatch hin
      · rw [if_neg hlost] at hin hh
        refine ⟨⟨report, hr, by rw [hl]; exact hlost⟩, xs, ?_⟩
        rw [hh, List.getLast?_concat, List.mem_singleton.1 hin]
  · rintro ⟨⟨report, hr, hlost⟩, xs, hx⟩
    obtain ⟨now, rfl, hl⟩ := eq_tick_of_ticked hr
    have hh := h.handed_tick now
    rw [hl] at hlost
    rw [if_neg hlost] at hh
    have hmem := List.mem_of_getLast? hx
    rw [hh, List.getLast?_concat] at hx
    obtain ⟨hxs, -⟩ := Prod.mk.inj (Option.some.inj hx)
    refine ⟨⟨report, hr⟩, xs, hmem, ?_⟩
    rw [← hxs]
    exact ht.isSignalFail

lemma templates_step (ht : h.node.schedule.Templates config own tag) (ev : NodeEvent) :
    (h.step ev).1.node.schedule.Templates config own tag :=
  ht.of_kin (h.node.kin_turn ev)

lemma templates_run (ht : h.node.schedule.Templates config own tag) (evs : List NodeEvent) :
    (h.run evs).node.schedule.Templates config own tag := by
  induction evs generalizing h with
  | nil => exact ht
  | cons ev evs ih => exact ih (templates_step ht ev)

theorem signals_log_iff (ht : h.node.schedule.Templates config own tag) (evs : List NodeEvent)
    {s : Showing} (hs : s ∈ h.log evs) : s.Signals ↔ s.Reports := by
  induction evs generalizing h with
  | nil => exact nomatch hs
  | cons ev evs ih =>
    rcases List.mem_cons.1 hs with rfl | hs
    · exact signals_step_iff ht ev
    · exact ih (templates_step ht ev) hs

end WiredNode

/-! ### The tick that finds a loss -/

/-- Frames only ever end a defect. -/
lemma MepTable.defect_apply {t : MepTable} {f : Frame} {config : Config} {now : Nat} {m : UInt16}
    (h : ((t.apply f config now).1.entry m).defect = true) : (t.entry m).defect = true := by
  rcases t.entry_apply_cases f config now m with he | ⟨c, -, -, he | he | he⟩ <;> rw [he] at h
  · exact h
  · exact h
  · exact h
  · exact nomatch h

/-- A defect begins in a tick that lists the end point. -/
theorem Node.defect_turn {n : Node} {ev : NodeEvent} {m : UInt16}
    (h : ((n.turn ev).1.station.meps.entry m).defect = true) :
    (n.station.meps.entry m).defect = true ∨ ∃ now, ev = .tick now ∧ m ∈ (n.tick now).2.lost := by
  rcases n.meps_turn_cases ev with hsame | ⟨now, rfl, hsweep⟩ | ⟨f, now, rfl, -, happly⟩
  · rw [hsame] at h
    exact .inl h
  · rw [hsweep, MepTable.entry_sweep] at h
    rcases Bool.or_eq_true _ _ ▸ h with hd | ho
    · exact .inl hd
    · refine .inr ⟨now, rfl, ?_⟩
      rw [lost_tick, MepTable.mem_sweep]
      exact ho
  · rw [happly] at h
    exact .inl (MepTable.defect_apply h)

namespace WiredNode

variable {h : WiredNode} {m : UInt16} {before after : List NodeEvent} {now : Nat}

def InDefect (h : WiredNode) (m : UInt16) (evs : List NodeEvent) : Prop :=
  ((h.run evs).node.station.meps.entry m).defect = true

/-- In a run of `before`, a tick at `now` and `after`, the end point enters with this tick the
defect that it is in at the end. -/
structure EntersDefect (h : WiredNode) (m : UInt16) (before : List NodeEvent) (now : Nat)
    (after : List NodeEvent) : Prop where
  healthy : ¬ h.InDefect m before
  since : ∀ evs, evs <+: after → h.InDefect m (before ++ .tick now :: evs)

lemma inDefect_snoc {evs : List NodeEvent} {ev : NodeEvent} (hd : h.InDefect m (evs ++ [ev])) :
    h.InDefect m evs ∨ ∃ now, ev = .tick now ∧ m ∈ ((h.run evs).node.tick now).2.lost := by
  unfold InDefect at hd
  rw [run_append] at hd
  exact Node.defect_turn hd

lemma EntersDefect.mem_lost (he : h.EntersDefect m before now after) :
    m ∈ ((h.run before).node.tick now).2.lost := by
  rcases inDefect_snoc (he.since [] (List.nil_prefix)) with hd | ⟨_, ht, hm⟩
  · exact absurd hd he.healthy
  · cases ht
    exact hm

/-- Every defect has been entered in some tick. -/
theorem exists_entersDefect (h0 : ¬ h.InDefect m []) {evs : List NodeEvent}
    (hd : h.InDefect m evs) : ∃ before now after,
      evs = before ++ .tick now :: after ∧ h.EntersDefect m before now after := by
  induction evs using List.reverseRecOn with
  | nil => exact absurd hd h0
  | append_singleton evs ev ih =>
    by_cases hp : h.InDefect m evs
    · obtain ⟨before, now, after, rfl, he⟩ := ih hp
      refine ⟨before, now, after ++ [ev], by rw [List.append_assoc]; rfl, he.healthy, ?_⟩
      intro evs' hevs
      rcases List.prefix_concat_iff.1 hevs with rfl | hevs
      · rw [List.append_assoc] at hd
        exact hd
      · exact he.since evs' hevs
    · rcases inDefect_snoc hd with hd' | ⟨now, rfl, -⟩
      · exact absurd hd' hp
      · refine ⟨evs, now, [], rfl, hp, fun evs' hevs => ?_⟩
        rw [List.prefix_nil.1 hevs]
        exact hd

end WiredNode

/-- Every end point that is in defect after a run of a new node has entered this defect in some tick
of the run, which reports the end point as newly defective. In this tick or a later one the link
took a Signal-Fail if and only if, in this tick or a later one that also found a loss, it took the
last frame of the tick. -/
theorem loss_signalled_iff {config : Config} {own : MacAddress} {ids : IdSource} {start : Nat}
    {n : Node} (hn : Node.create config own ids start = .ok n) (w : Wire) (evs : List NodeEvent)
    (m : UInt16) (hd : WiredNode.InDefect ⟨n, w⟩ m evs) :
    let h : WiredNode := ⟨n, w⟩
    ∃ before now after, evs = before ++ .tick now :: after ∧ h.EntersDefect m before now after ∧
      (∃ report, ((h.run before).step (.tick now)).2.answer = .ticked report ∧
        m ∈ report.newlyDefective) ∧
      ((∃ s ∈ (h.run before).log (.tick now :: after), s.Signals) ↔
        ∃ s ∈ (h.run before).log (.tick now :: after), s.Reports) := by
  intro h
  obtain ⟨tag, -, ht, hstation, -, -⟩ := Node.of_create own ids start hn
  have h0 : ¬ h.InDefect m [] := by
    unfold WiredNode.InDefect
    change ¬ (n.station.meps.entry m).defect = true
    rw [hstation]
    exact Bool.false_ne_true
  obtain ⟨before, now, after, hevs, he⟩ := WiredNode.exists_entersDefect h0 hd
  refine ⟨before, now, after, hevs, he, ⟨_, rfl, he.mem_lost⟩, ?_⟩
  have hlog : ∀ s ∈ (h.run before).log (.tick now :: after), s.Signals ↔ s.Reports :=
    fun s hs => WiredNode.signals_log_iff (WiredNode.templates_run ht before) _ hs
  constructor
  · rintro ⟨s, hs, hsig⟩
    exact ⟨s, hs, (hlog s hs).1 hsig⟩
  · rintro ⟨s, hs, hrep⟩
    exact ⟨s, hs, (hlog s hs).2 hrep⟩

/-- A continuity check of the end point 5, with the names of a station that was not told otherwise. -/
def neighbourCcm : Frame where
  octets := [1, 0x80, 0xC2, 0, 0, 0x30, 2, 0, 0, 0, 0, 2, 0x89, 0x02, 0, 1, 4, 70, 0, 0, 0, 0, 0, 5,
    4, 3, 72, 67, 76, 2, 8, 72, 67, 76, 95, 69, 82, 80, 83] ++ List.replicate 50 0
  kind := none
  length_le := by decide

/-- The table of a station that has received this check at the start. -/
def heardNeighbour : MepTable := (MepTable.empty .sec1).set 5
  { mac := ⟨2, 0, 0, 0, 0, 2⟩, active := true, levelEqual := true, lastSequence := some 0,
    expiresAt := some 3500 }

lemma apply_neighbourCcm : (MepTable.empty .sec1).apply neighbourCcm {} 0 =
    (heardNeighbour, .ok ⟨5, true, false⟩) := by decide +kernel

/-- A station hears its neighbour, misses it, and ticks once more. -/
def lossRun : List NodeEvent := [.receive neighbourCcm 0, .tick 3500, .tick 3600]

section LossRun

variable {n : Node}

lemma step_neighbourCcm (hn : Node.create {} ⟨2, 0, 0, 0, 0, 1⟩ ⟨fun _ => 0, 0⟩ 0 = .ok n)
    (w : Wire) : ((WiredNode.mk n w).step (.receive neighbourCcm 0)).1 =
      ⟨n.withMeps heardNeighbour, w⟩ := by
  have hd : n.dispatch neighbourCcm 0 =
      (n.withMeps heardNeighbour, .done (.ccm ⟨5, true, false⟩)) := by
    apply Node.dispatch_ccm_accepted ⟨rfl, rfl⟩
    rw [Node.station_create hn]
    exact apply_neighbourCcm
  change WiredNode.mk (n.dispatch neighbourCcm 0).1
    (w.offerAll 0 (n.dispatch neighbourCcm 0).2.offered?.toList).1 = _
  rw [hd]
  rfl

lemma lost_neighbour : ((n.withMeps heardNeighbour).tick 3500).2.lost = [5] := by
  rw [Node.lost_tick]
  rfl

lemma lost_twice :
    (((n.withMeps heardNeighbour).tick 3500).1.tick 3600).2.lost = [] := by
  rw [Node.lost_tick, Node.meps_tick]
  rfl

lemma inDefect_lossRun (hn : Node.create {} ⟨2, 0, 0, 0, 0, 1⟩ ⟨fun _ => 0, 0⟩ 0 = .ok n)
    (w : Wire) : WiredNode.InDefect ⟨n, w⟩ 5 lossRun := by
  unfold WiredNode.InDefect lossRun
  rw [WiredNode.run_cons, step_neighbourCcm hn]
  change ((((n.withMeps heardNeighbour).tick 3500).1.tick 3600).1.station.meps.entry 5).defect = true
  rw [Node.meps_tick, Node.meps_tick]
  rfl

end LossRun

theorem loss_signalled_iff_lossRun : ∃ n,
    Node.create {} ⟨2, 0, 0, 0, 0, 1⟩ ⟨fun _ => 0, 0⟩ 0 = .ok n ∧
    let h : WiredNode := ⟨n, { verdict := fun _ _ => .ok () }⟩
    h.InDefect 5 lossRun ∧ ∃ before now after, lossRun = before ++ .tick now :: after ∧
      h.EntersDefect 5 before now after ∧
      ((∃ s ∈ (h.run before).log (.tick now :: after), s.Signals) ↔
        ∃ s ∈ (h.run before).log (.tick now :: after), s.Reports) := by
  have htag : Config.tag {} = .ok none := rfl
  obtain ⟨n, hn, -⟩ := Node.create_ok ⟨2, 0, 0, 0, 0, 1⟩ ⟨fun _ => 0, 0⟩ 0 htag
  obtain ⟨before, now, after, hevs, he, -, hiff⟩ :=
    loss_signalled_iff hn { verdict := fun _ _ => .ok () } lossRun 5 (inDefect_lossRun hn _)
  exact ⟨n, hn, inDefect_lossRun hn _, before, now, after, hevs, he, hiff⟩

/-- A link that refuses the first frame and takes all others. -/
def refusingWire : Wire where
  verdict k _ := if k = 0 then .error (.transport (.words "injected send failure")) else .ok ()

/-- The loss of the neighbour is never signalled if the link refuses the report of it, although the
link takes whatever it is offered afterwards. -/
theorem loss_unsignalled_lossRun : ∃ n,
    Node.create {} ⟨2, 0, 0, 0, 0, 1⟩ ⟨fun _ => 0, 0⟩ 0 = .ok n ∧
    let h : WiredNode := ⟨n, refusingWire⟩
    (∀ k xs, (h.run [.receive neighbourCcm 0, .tick 3500]).wire.offered ≤ k →
      h.wire.verdict k xs = .ok ()) ∧
    h.InDefect 5 lossRun ∧ ∀ s ∈ h.log lossRun, ¬ s.Signals := by
  have htag : Config.tag {} = .ok none := rfl
  obtain ⟨n, hn, ht, -⟩ := Node.create_ok ⟨2, 0, 0, 0, 0, 1⟩ ⟨fun _ => 0, 0⟩ 0 htag
  let h : WiredNode := ⟨n, refusingWire⟩
  let h' : WiredNode := ⟨n.withMeps heardNeighbour, refusingWire⟩
  have hheard : ((WiredNode.mk n refusingWire).step (.receive neighbourCcm 0)).1 = h' :=
    step_neighbourCcm hn refusingWire
  have hslot : (h'.node.runSlot 3500).2.2 = [] := by
    change ((n.withMeps heardNeighbour).runSlot 3500).2.2 = []
    rw [Node.runSlot_withMeps]
    exact ht.runSlot_silent rfl rfl 3500
  have hlost : (h'.node.tick 3500).2.lost ≠ [] := by
    rw [lost_neighbour]
    exact List.cons_ne_nil 5 []
  refine ⟨n, hn, ?_, inDefect_lossRun hn _, ?_⟩
  · have hoffered : (h'.step (.tick 3500)).1.wire.offered = 1 := by
      change (refusingWire.offerAll 3500 (h'.node.tick 3500).2.offered).1.offered = 1
      rw [Node.offered_tick, hslot, if_neg hlost]
      rfl
    intro k xs hk
    rw [WiredNode.run_cons, hheard, WiredNode.run_cons, WiredNode.run_nil, hoffered] at hk
    exact if_neg (by omega)
  · intro s hs
    rw [WiredNode.signals_log_iff ht lossRun hs]
    have hlog : h.log lossRun = [(h.step (.receive neighbourCcm 0)).2, (h'.step (.tick 3500)).2,
        ((h'.step (.tick 3500)).1.step (.tick 3600)).2] := by
      rw [← hheard]
      rfl
    rw [hlog] at hs
    simp only [List.mem_cons, List.not_mem_nil, or_false] at hs
    rintro ⟨⟨report, hr, hnew⟩, xs, hx⟩
    rcases hs with rfl | rfl | rfl
    · exact nomatch hr
    · rw [WiredNode.handed_tick, if_neg hlost, List.getLast?_concat] at hx
      unfold WiredNode.reportVerdict at hx
      rw [hslot] at hx
      exact nomatch hx
    · obtain ⟨_, ht, hl⟩ := WiredNode.eq_tick_of_ticked hr
      cases ht
      exact hnew (hl.trans lost_twice)

end RingContinuity
