import RingContinuity.Proofs.MepTable
import RingContinuity.Wire

/-!
# Runs of a node

A run takes a node through ticks, received frames and the requests of its operator, on a wire that
may refuse any frame. What the node offers at an event and how it answers once the wire has decided
is a `Turn`, which does not depend on the wire.
-/

namespace RingContinuity

/-- What is noted about outstanding requests from outside the node. -/
inductive Note
  | awaitLoopback (id : UInt32)
  | countLoopbackReply
  | startLinktrace (id : UInt32) (target : MacAddress)
  | recordLinktraceReply (id : UInt32) (reply : Linktrace.Reply)

def Outstanding.noted (o : Outstanding) : Note → Outstanding
  | .awaitLoopback id => o.awaitLoopback id
  | .countLoopbackReply => o.countLoopbackReply
  | .startLinktrace id target => o.startLinktrace id target
  | .recordLinktraceReply id reply => o.recordLinktraceReply id reply

inductive NodeEvent
  | tick (now : Nat)
  | receive (f : Frame) (now : Nat)
  | linktrace (target : MacAddress) (ttl : Option UInt8) (now : Nat)
  | note (entry : Note)
  | draw
  | reseed (ids : IdSource)

inductive Answer
  | ticked (report : TickReport)
  | dispatched (result : Except Error Dispatched)
  | traced (result : Except Error UInt32)
  | drawn (id : UInt32)
  | silent

/-- What a node offers to its link at an event, and what it answers to the verdicts on that. -/
structure Turn where
  offered : List Frame
  answer : List Verdict → Answer

/-- The time at which frames are offered; the other events offer none. -/
def NodeEvent.time : NodeEvent → Nat
  | .tick now | .receive _ now | .linktrace _ _ now => now
  | .note _ | .draw | .reseed _ => 0

namespace Node

def turn (n : Node) : NodeEvent → Node × Turn
  | .tick now =>
    let (n, tick) := n.tick now
    (n, ⟨tick.offered, fun verdicts => .ticked (tick.reportOn verdicts)⟩)
  | .receive f now =>
    let (n, reaction) := n.dispatch f now
    (n, ⟨reaction.offered?.toList,
      fun verdicts => .dispatched (reaction.outcome (verdicts.headD (.ok ())))⟩)
  | .linktrace target ttl _ =>
    match n.linktrace target ttl with
    | (n, .error cause) => (n, ⟨[], fun _ => .traced (.error cause)⟩)
    | (n, .ok (id, f)) =>
      (n, ⟨[f], fun verdicts => .traced ((verdicts.headD (.ok ())).map fun _ => id)⟩)
  | .note entry =>
    ({ n with station := { n.station with outstanding := n.station.outstanding.noted entry } },
      ⟨[], fun _ => .silent⟩)
  | .draw =>
    let (id, station) := n.station.drawId
    ({ n with station }, ⟨[], fun _ => .drawn id⟩)
  | .reseed ids => ({ n with station := { n.station with ids } }, ⟨[], fun _ => .silent⟩)

lemma turn_tick (n : Node) (now : Nat) : n.turn (.tick now) =
    ((n.tick now).1, ⟨(n.tick now).2.offered,
      fun verdicts => .ticked ((n.tick now).2.reportOn verdicts)⟩) := rfl

lemma turn_receive (n : Node) (f : Frame) (now : Nat) : n.turn (.receive f now) =
    ((n.dispatch f now).1, ⟨(n.dispatch f now).2.offered?.toList,
      fun verdicts => .dispatched ((n.dispatch f now).2.outcome (verdicts.headD (.ok ())))⟩) := rfl

end Node

/-- The link takes whatever it is offered. -/
def Wire.Accepting (w : Wire) : Prop := ∀ i xs, w.verdict i xs = .ok ()

/-- A node and the sending side of its link. -/
structure WiredNode where
  node : Node
  wire : Wire

/-- What an event shows: the answer, and the octets handed to the link with its verdicts. -/
structure Showing where
  answer : Answer
  handed : List (Octets × Verdict)

namespace WiredNode

def step (h : WiredNode) (ev : NodeEvent) : WiredNode × Showing :=
  let (node, turn) := h.node.turn ev
  let (wire, verdicts) := h.wire.offerAll ev.time turn.offered
  (⟨node, wire⟩, ⟨turn.answer verdicts, (turn.offered.map Frame.onLink).zip verdicts⟩)

def run (h : WiredNode) (evs : List NodeEvent) : WiredNode := evs.foldl (fun h ev => (h.step ev).1) h

def log (h : WiredNode) : List NodeEvent → List Showing
  | [] => []
  | ev :: evs => (h.step ev).2 :: (h.step ev).1.log evs

/-! ### A step is what the node does on its wire -/

theorem step_tick (h : WiredNode) (now : Nat) :
    ((h.step (.tick now)).1.node, (h.step (.tick now)).1.wire, (h.step (.tick now)).2.answer) =
      ((h.node.tickOn h.wire now).1, (h.node.tickOn h.wire now).2.1,
        .ticked (h.node.tickOn h.wire now).2.2) := rfl

theorem step_receive (h : WiredNode) (f : Frame) (now : Nat) :
    ((h.step (.receive f now)).1.node, (h.step (.receive f now)).1.wire,
        (h.step (.receive f now)).2.answer) =
      ((h.node.dispatch f now).1, ((h.node.dispatch f now).2.on h.wire now).1,
        .dispatched ((h.node.dispatch f now).2.on h.wire now).2) := by
  have hr : ∀ r : Reaction, (h.wire.offerAll now r.offered?.toList).1 = (r.on h.wire now).1 ∧
      r.outcome ((h.wire.offerAll now r.offered?.toList).2.headD (.ok ())) =
        (r.on h.wire now).2 := by
    intro r
    cases r <;> exact ⟨rfl, rfl⟩
  rw [← (hr _).1, ← (hr _).2]
  rfl

section Receive

variable {h : WiredNode} {f : Frame} {now : Nat} {n : Node}

lemma step_refused {cause : Error} (hd : h.node.dispatch f now = (n, .refused cause)) :
    h.step (.receive f now) = (⟨n, h.wire⟩, ⟨.dispatched (.error cause), []⟩) := by
  unfold step
  rw [Node.turn_receive, hd]
  rfl

lemma step_done {what : Dispatched} (hd : h.node.dispatch f now = (n, .done what)) :
    h.step (.receive f now) = (⟨n, h.wire⟩, ⟨.dispatched (.ok what), []⟩) := by
  unfold step
  rw [Node.turn_receive, hd]
  rfl

lemma step_reply {reply : Frame} {what : Dispatched}
    (hd : h.node.dispatch f now = (n, .reply reply what)) :
    h.step (.receive f now) = (⟨n, (h.wire.offer now reply).1⟩,
      ⟨.dispatched ((h.wire.offer now reply).2.map fun _ => what),
        [(reply.onLink, (h.wire.offer now reply).2)]⟩) := by
  unfold step
  rw [Node.turn_receive, hd]
  rfl

lemma step_reply_accepting {reply : Frame} {what : Dispatched} (hw : h.wire.Accepting)
    (hd : h.node.dispatch f now = (n, .reply reply what)) :
    (h.step (.receive f now)).2 = ⟨.dispatched (.ok what), [(reply.onLink, .ok ())]⟩ := by
  have hv : (h.wire.offer now reply).2 = .ok () := hw h.wire.offered reply.onLink
  rw [step_reply hd, hv]
  rfl

end Receive

@[simp] lemma run_nil (h : WiredNode) : h.run [] = h := rfl

@[simp] lemma run_cons (h : WiredNode) (ev : NodeEvent) (evs : List NodeEvent) :
    h.run (ev :: evs) = (h.step ev).1.run evs := rfl

lemma run_append (h : WiredNode) (evs evs' : List NodeEvent) :
    h.run (evs ++ evs') = (h.run evs).run evs' := List.foldl_append ..

/-- What `g` finds in the events of a run, in order. -/
def collected {α : Type} (g : Node → NodeEvent → List α) (h : WiredNode) : List NodeEvent → List α
  | [] => []
  | ev :: evs => g h.node ev ++ (h.step ev).1.collected g evs

lemma collected_concat {α : Type} (g : Node → NodeEvent → List α) (h : WiredNode)
    (evs : List NodeEvent) (ev : NodeEvent) :
    h.collected g (evs ++ [ev]) = h.collected g evs ++ g (h.run evs).node ev := by
  induction evs generalizing h with
  | nil => exact List.append_nil _
  | cons first evs ih =>
    change g h.node first ++ (h.step first).1.collected g (evs ++ [ev]) = _
    rw [ih, ← List.append_assoc]
    rfl

end WiredNode

/-! ### The table within a node -/

namespace Station

def withMeps (s : Station) (t : MepTable) : Station := { s with meps := t }

@[simp] lemma withMeps_meps (s : Station) : s.withMeps s.meps = s := rfl

/-- Whether a station takes a frame for a continuity check. -/
def IsCcm (f : Frame) : Prop := f.isCfm = true ∧ f.opcode = .ok .ccm

lemma dispatch_ccm {f : Frame} (hf : IsCcm f) (s : Station) (now : Nat) :
    s.dispatch f now = s.dispatchCcm f now := by
  unfold dispatch
  rw [hf.1, hf.2]
  rfl

lemma dispatch_of_opcode (s : Station) {f : Frame} (hc : f.isCfm = true) (now : Nat) {k : Opcode} :
    f.opcode = .ok k → s.dispatch f now = match k with
      | .ccm => s.dispatchCcm f now
      | .lbm => (s, s.dispatchLbm f)
      | .lbr => s.dispatchLbr f
      | .ltm => (s, s.dispatchLtm f)
      | .ltr => s.dispatchLtr f
      | .raps => (s, dispatchRaps f) := by
  intro hk
  unfold dispatch
  rw [hc, hk]
  cases k <;> rfl

/-- A frame that is not a continuity check passes the table by. All that it can change is what the
station waits for, and not even that if it is refused. -/
theorem dispatch_other {f : Frame} (hf : ¬ IsCcm f) (s : Station) (now : Nat) :
    ∃ o r, (∀ cause, r = .refused cause → o = s.outstanding) ∧
      ∀ t, (s.withMeps t).dispatch f now = ({ s.withMeps t with outstanding := o }, r) := by
  by_cases hc : f.isCfm = true
  · cases ho : f.opcode with
    | error cause =>
      refine ⟨s.outstanding, .refused cause, fun _ _ => rfl, fun t => ?_⟩
      simp only [dispatch, hc, ho]
      rfl
    | ok k =>
      cases k with
      | ccm => exact absurd ⟨hc, ho⟩ hf
      | lbm =>
        refine ⟨s.outstanding, s.dispatchLbm f, fun _ _ => rfl, fun t => ?_⟩
        simp only [dispatch, hc, ho]
        rfl
      | ltm =>
        refine ⟨s.outstanding, s.dispatchLtm f, fun _ _ => rfl, fun t => ?_⟩
        simp only [dispatch, hc, ho]
        rfl
      | raps =>
        refine ⟨s.outstanding, dispatchRaps f, fun _ _ => rfl, fun t => ?_⟩
        simp only [dispatch, hc, ho]
        rfl
      | lbr =>
        have hd : ∀ t, (s.withMeps t).dispatch f now = (s.withMeps t).dispatchLbr f := by
          intro t
          simp only [dispatch, hc, ho]
          rfl
        cases hl : s.outstanding.loopback with
        | none =>
          refine ⟨s.outstanding, .done .ignored, fun _ _ => rfl, fun t => ?_⟩
          rw [hd]
          simp only [dispatchLbr, withMeps, hl]
        | some id =>
          cases hm : Loopback.matchReply f id s.own s.config.remoteMac with
          | error cause =>
            refine ⟨s.outstanding, .refused cause, fun _ _ => rfl, fun t => ?_⟩
            rw [hd]
            simp only [dispatchLbr, withMeps, hl, hm]
          | ok u =>
            refine ⟨s.outstanding.countLoopbackReply, .done (.loopbackMatched id),
              (fun _ h => nomatch h), fun t => ?_⟩
            rw [hd]
            simp only [dispatchLbr, withMeps, hl, hm]
      | ltr =>
        have hd : ∀ t, (s.withMeps t).dispatch f now = (s.withMeps t).dispatchLtr f := by
          intro t
          simp only [dispatch, hc, ho]
          rfl
        cases hl : s.outstanding.linktraceId? with
        | none =>
          refine ⟨s.outstanding, .done .ignored, fun _ _ => rfl, fun t => ?_⟩
          rw [hd]
          simp only [dispatchLtr, withMeps, hl]
        | some id =>
          cases hm : Linktrace.matchReply f s.own id with
          | error cause =>
            refine ⟨s.outstanding, .refused cause, fun _ _ => rfl, fun t => ?_⟩
            rw [hd]
            simp only [dispatchLtr, recordLtr, withMeps, hl, hm]
          | ok reply =>
            refine ⟨s.outstanding.recordLinktraceReply id reply,
              .done (.linktraceMatched id reply), (fun _ h => nomatch h), fun t => ?_⟩
            rw [hd]
            simp only [dispatchLtr, recordLtr, withMeps, hl, hm]
  · refine ⟨s.outstanding, .refused (.mismatch .notCfm), fun _ _ => rfl, fun t => ?_⟩
    simp only [dispatch, hc]
    rfl

/-- Refusing a frame that is not a continuity check leaves everything as it was. -/
theorem dispatch_other_refused {f : Frame} (hf : ¬ IsCcm f) {s : Station} {now : Nat}
    {cause : Error} (h : (s.dispatch f now).2 = .refused cause) : (s.dispatch f now).1 = s := by
  obtain ⟨o, r, ho, hd⟩ := dispatch_other hf s now
  have hs := hd s.meps
  rw [withMeps_meps] at hs
  rw [hs] at h ⊢
  rw [ho cause h]

end Station

namespace Node

def withMeps (n : Node) (t : MepTable) : Node := { n with station := n.station.withMeps t }

@[simp] lemma withMeps_self (n : Node) : n.withMeps n.station.meps = n := rfl

@[simp] lemma meps_withMeps (n : Node) (t : MepTable) : (n.withMeps t).station.meps = t := rfl

@[simp] lemma schedule_withMeps (n : Node) (t : MepTable) :
    (n.withMeps t).schedule = n.schedule := rfl

@[simp] lemma config_withMeps (n : Node) (t : MepTable) :
    (n.withMeps t).station.config = n.station.config := rfl

lemma runSlot_withMeps (n : Node) (t : MepTable) (now : Nat) :
    (n.withMeps t).runSlot now = ((n.runSlot now).1.withMeps t, (n.runSlot now).2) := by
  have ht : (n.withMeps t).transmit = (n.transmit.1.withMeps t, n.transmit.2) := by
    have hs : (n.withMeps t).stampedLbm? = n.stampedLbm? := rfl
    unfold transmit
    rw [hs]
    cases n.stampedLbm? <;> rfl
  unfold runSlot
  rw [schedule_withMeps, config_withMeps, ht]
  by_cases hd : now < n.schedule.nextSlot
  · rw [if_pos hd, if_pos hd]
  · rw [if_neg hd, if_neg hd]
    by_cases hk : n.schedule.transmits n.station.config.skips = true
    · rw [if_pos hk, if_pos hk]
      rfl
    · rw [if_neg hk, if_neg hk]
      rfl

lemma meps_runSlot (n : Node) (now : Nat) : (n.runSlot now).1.station.meps = n.station.meps := by
  have h := runSlot_withMeps n n.station.meps now
  rw [withMeps_self] at h
  have h1 := congrArg (fun r => r.1.station.meps) h
  exact h1

/-- A tick reads the table only to sweep it. -/
theorem tick_withMeps {n : Node} {t : MepTable} {now : Nat}
    (h : (t.sweep now).2 = (n.station.meps.sweep now).2) :
    (n.withMeps t).tick now = ((n.tick now).1.withMeps (t.sweep now).1, (n.tick now).2) := by
  have hm := meps_runSlot n now
  unfold tick
  rw [runSlot_withMeps]
  dsimp only
  unfold watch
  dsimp only [withMeps, Station.withMeps]
  rw [hm, h]

lemma meps_tick (n : Node) (now : Nat) :
    (n.tick now).1.station.meps = (n.station.meps.sweep now).1 := by
  change ((n.runSlot now).1.station.meps.sweep now).1 = _
  rw [meps_runSlot]

lemma lost_tick (n : Node) (now : Nat) : (n.tick now).2.lost = (n.station.meps.sweep now).2 := by
  change ((n.runSlot now).1.station.meps.sweep now).2 = _
  rw [meps_runSlot]

lemma station_create {config : Config} {own : MacAddress} {ids : IdSource} {start : Nat} {n : Node}
    (h : create config own ids start = .ok n) :
    n.station = Station.create config own ids.draw.2 := by
  unfold create at h
  cases hs : Schedule.create config own ids.draw.1 start with
  | error err =>
    rw [hs] at h
    exact nomatch h
  | ok schedule =>
    rw [hs] at h
    cases h
    rfl

lemma dispatch_other_refused {f : Frame} (hf : ¬ Station.IsCcm f) {n : Node} {now : Nat}
    {cause : Error} (h : (n.dispatch f now).2 = .refused cause) : (n.dispatch f now).1 = n := by
  have hs := Station.dispatch_other_refused (s := n.station) hf h
  change ({ n with station := (n.station.dispatch f now).1 } : Node) = n
  rw [hs]

lemma meps_dispatch_other {f : Frame} (hf : ¬ Station.IsCcm f) (n : Node) (now : Nat) :
    (n.dispatch f now).1.station.meps = n.station.meps := by
  obtain ⟨o, r, -, hd⟩ := Station.dispatch_other hf n.station now
  have hn := hd n.station.meps
  rw [Station.withMeps_meps] at hn
  unfold dispatch
  rw [hn]

lemma dispatch_ccm {f : Frame} (hf : Station.IsCcm f) (n : Node) (now : Nat) :
    n.dispatch f now = (n.withMeps (n.station.meps.apply f n.station.config now).1,
      match (n.station.meps.apply f n.station.config now).2 with
      | .ok accepted => .done (.ccm accepted)
      | .error cause => .refused cause) := by
  unfold dispatch
  rw [Station.dispatch_ccm hf]
  rfl

lemma dispatch_ccm_accepted {f : Frame} (hf : Station.IsCcm f) {n : Node} {now : Nat}
    {t : MepTable} {accepted : CcmAccepted}
    (h : n.station.meps.apply f n.station.config now = (t, .ok accepted)) :
    n.dispatch f now = (n.withMeps t, .done (.ccm accepted)) := by
  rw [dispatch_ccm hf, h]

/-- The node neither reads nor writes its table at an event. -/
def Bypasses (n : Node) (ev : NodeEvent) : Prop :=
  ∀ t, (n.withMeps t).turn ev = ((n.turn ev).1.withMeps t, (n.turn ev).2)

lemma Bypasses.meps {n : Node} {ev : NodeEvent} (h : n.Bypasses ev) :
    (n.turn ev).1.station.meps = n.station.meps := by
  have hs := congrArg (fun r => r.1.station.meps) (h n.station.meps)
  rw [withMeps_self] at hs
  exact hs

lemma bypasses_receive {f : Frame} (hf : ¬ Station.IsCcm f) (n : Node) (now : Nat) :
    n.Bypasses (.receive f now) := by
  intro t
  obtain ⟨o, r, -, hd⟩ := Station.dispatch_other hf n.station now
  have hn := hd n.station.meps
  rw [Station.withMeps_meps] at hn
  rw [turn_receive, turn_receive]
  unfold dispatch
  dsimp only [withMeps]
  rw [hd t, hn]
  rfl

lemma bypasses_linktrace (n : Node) (target : MacAddress) (ttl : Option UInt8) (now : Nat) :
    n.Bypasses (.linktrace target ttl now) := by
  intro t
  unfold turn linktrace Station.linktrace
  dsimp only [Station.drawId, withMeps, Station.withMeps]
  cases Linktrace.buildRequest n.station.config n.station.own target n.station.ids.draw.1
    (ttl.getD Linktrace.defaultTtl) <;> rfl

lemma mem_offered_linktrace {n : Node} {target : MacAddress} {ttl : Option UInt8} {now : Nat}
    {f : Frame} (hf : f ∈ (n.turn (.linktrace target ttl now)).2.offered) :
    ∃ id ttl, Linktrace.buildRequest n.station.config n.station.own target id ttl = .ok f := by
  unfold turn linktrace Station.linktrace at hf
  dsimp only [Station.drawId] at hf
  cases hb : Linktrace.buildRequest n.station.config n.station.own target n.station.ids.draw.1
      (ttl.getD Linktrace.defaultTtl) with
  | error cause =>
    rw [hb] at hf
    exact nomatch hf
  | ok frame =>
    rw [hb] at hf
    rw [List.mem_singleton.1 hf]
    exact ⟨_, _, hb⟩

/-- A table changes in the ticks, which sweep it, and when continuity checks are received. -/
theorem meps_turn_cases (n : Node) (ev : NodeEvent) :
    (n.turn ev).1.station.meps = n.station.meps ∨
      (∃ now, ev = .tick now ∧ (n.turn ev).1.station.meps = (n.station.meps.sweep now).1) ∨
      ∃ f now, ev = .receive f now ∧ Station.IsCcm f ∧
        (n.turn ev).1.station.meps = (n.station.meps.apply f n.station.config now).1 := by
  cases ev with
  | tick now => exact .inr (.inl ⟨now, rfl, n.meps_tick now⟩)
  | receive f now =>
    by_cases hf : Station.IsCcm f
    · refine .inr (.inr ⟨f, now, rfl, hf, ?_⟩)
      rw [turn_receive, dispatch_ccm hf]
      rfl
    · exact .inl (bypasses_receive hf n now).meps
  | linktrace target ttl now => exact .inl (n.bypasses_linktrace target ttl now).meps
  | note entry => exact .inl rfl
  | draw => exact .inl rfl
  | reseed ids => exact .inl rfl

end Node
end RingContinuity
