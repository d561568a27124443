import RingContinuity.Proofs.HarmlessOctets

/-!
# Steps of an engine

What the steps of an engine have its node do, and what they set aside: neither the dispatch of a
frame nor the schedule draws an id or touches the frames that wait for their dispatch.
-/

namespace RingContinuity

/-! ### Ids that are not drawn -/

namespace Node

variable (n : Node) (ids : IdSource)

/-- A node that will draw other ids. -/
def redrawn : Node := { n with station.ids := ids }

lemma dispatch_redrawn (f : Frame) (time : Nat) : (n.redrawn ids).dispatch f time =
    ((n.dispatch f time).1.redrawn ids, (n.dispatch f time).2) := by
  unfold dispatch Station.dispatch
  cases f.isCfm with
  | false => rfl
  | true =>
    cases f.opcode with
    | error cause => rfl
    | ok k =>
      cases k with
      | ccm => rfl
      | lbm => rfl
      | lbr =>
        dsimp only [redrawn, Station.dispatchLbr]
        cases n.station.outstanding.loopback with
        | none => rfl
        | some id =>
          dsimp only
          cases Loopback.matchReply f id n.station.own n.station.config.remoteMac <;> rfl
      | ltm => rfl
      | ltr =>
        dsimp only [redrawn, Station.dispatchLtr, Station.recordLtr]
        cases n.station.outstanding.linktraceId? with
        | none => rfl
        | some id =>
          dsimp only
          cases Linktrace.matchReply f n.station.own id <;> rfl
      | raps => rfl

lemma transmit_redrawn : (n.redrawn ids).transmit = (n.transmit.1.redrawn ids, n.transmit.2) := by
  have hlbm : (n.redrawn ids).stampedLbm? = n.stampedLbm? := rfl
  unfold transmit
  rw [hlbm]
  cases n.stampedLbm? <;> rfl

lemma runSlot_redrawn (now : Nat) : (n.redrawn ids).runSlot now =
    ((n.runSlot now).1.redrawn ids, (n.runSlot now).2) := by
  unfold runSlot
  rw [transmit_redrawn]
  by_cases hdue : now < n.schedule.nextSlot
  · have hdue' : now < (n.redrawn ids).schedule.nextSlot := hdue
    rw [if_pos hdue, if_pos hdue']
  · have hdue' : ¬now < (n.redrawn ids).schedule.nextSlot := hdue
    rw [if_neg hdue, if_neg hdue']
    by_cases ht : n.schedule.transmits n.station.config.skips = true
    · have ht' : (n.redrawn ids).schedule.transmits (n.redrawn ids).station.config.skips = true :=
        ht
      rw [if_pos ht, if_pos ht']
      rfl
    · have ht' : ¬(n.redrawn ids).schedule.transmits (n.redrawn ids).station.config.skips = true :=
        ht
      rw [if_neg ht, if_neg ht']
      rfl

end Node

/-! ### Frames that wait -/

namespace DispatchPhase

/-- The phase and the queue after the dispatching activity has woken. -/
def wake : DispatchPhase → List Octets → DispatchPhase × List Octets
  | .idle, xs :: rest => (.collecting [xs], rest)
  | phase, queue => (phase, queue)

/-- The phase and the queue after it has looked for one more frame. -/
def drain (now : Nat) : DispatchPhase → List Octets → DispatchPhase × List Octets
  | .collecting batch, xs :: rest => (.collecting (batch ++ [xs]), rest)
  | .collecting batch, [] => (.handling now batch, [])
  | phase, queue => (phase, queue)

/-- The octets that are decoded next, with the time for which they are, and the phase in which this
leaves the activity. -/
def handle : DispatchPhase → Option (Nat × Octets) × DispatchPhase
  | .handling time (xs :: rest) => (some (time, xs), .handling time rest)
  | .handling _ [] => (none, .idle)
  | phase => (none, phase)

end DispatchPhase

namespace Engine

variable (e : Engine)

/-- The engine with other frames waiting for their dispatch, in its batch and in its queue. -/
def holding (held : DispatchPhase × List Octets) : Engine :=
  { e with phase := held.1, queue := held.2 }

/-- What the engine holds when the dispatching activity, if it is there, has woken. -/
def woken : DispatchPhase × List Octets :=
  if Activity.dispatch ∈ e.live then e.phase.wake e.queue else (e.phase, e.queue)

/-- What the engine holds when the dispatching activity has looked for one more frame. -/
def drained : DispatchPhase × List Octets :=
  if Activity.dispatch ∈ e.live then e.phase.drain e.now e.queue else (e.phase, e.queue)

/-- What the dispatching activity decodes next, and its phase after that. -/
def upNext : Option (Nat × Octets) × DispatchPhase :=
  if Activity.dispatch ∈ e.live then e.phase.handle else (none, e.phase)

lemma step_wake : e.step .wake = (e.holding e.woken, .quiet) := by
  obtain ⟨node, wire, crashes, now, due, queue, phase, live, cancelled, crashed⟩ := e
  unfold step woken
  dsimp only
  by_cases h : Activity.dispatch ∈ live
  · rw [if_neg (not_not_intro h), if_pos h]
    cases phase <;> cases queue <;> rfl
  · rw [if_pos h, if_neg h]
    rfl

lemma step_drain : e.step .drain = (e.holding e.drained, .quiet) := by
  obtain ⟨node, wire, crashes, now, due, queue, phase, live, cancelled, crashed⟩ := e
  unfold step drained
  dsimp only
  by_cases h : Activity.dispatch ∈ live
  · rw [if_neg (not_not_intro h), if_pos h]
    cases phase <;> cases queue <;> rfl
  · rw [if_pos h, if_neg h]
    rfl

lemma step_handle : e.step .handle = match e.upNext with
    | (some (time, xs), phase) => { e with phase }.dispatch time xs
    | (none, phase) => ({ e with phase }, .quiet) := by
  obtain ⟨node, wire, crashes, now, due, queue, phase, live, cancelled, crashed⟩ := e
  unfold step upNext
  dsimp only
  by_cases h : Activity.dispatch ∈ live
  · rw [if_neg (not_not_intro h), if_pos h]
    rcases phase with _ | batch | ⟨time, _ | ⟨xs, rest⟩⟩ <;> rfl
  · rw [if_pos h, if_neg h]

end Engine

/-! ### Offering -/

/-- Offers frames in order until one of them crashes the activity that offers it. -/
def Wire.offerUnless (w : Wire) (crashes : Nat → Bool) (now : Nat) :
    List Frame → Wire × Option (List Verdict)
  | [] => (w, some [])
  | f :: fs =>
    if crashes w.offered then (w, none)
    else
      let rest := (w.offer now f).1.offerUnless crashes now fs
      (rest.1, rest.2.map ((w.offer now f).2 :: ·))

namespace Engine

variable (e : Engine)

/-- Offering frames concerns the link alone. -/
lemma offerAll_eq (fs : List Frame) : e.offerAll fs =
    ({ e with wire := (e.wire.offerUnless e.crashes e.now fs).1 },
      (e.wire.offerUnless e.crashes e.now fs).2) := by
  induction fs generalizing e with
  | nil => rfl
  | cons f fs ih =>
    unfold offerAll Wire.offerUnless
    split
    · rfl
    · dsimp only
      rw [ih]

/-! ### Halves of a wake-up of the schedule -/

/-- The second half of a wake-up of the schedule, when the frames of the slot have been offered. -/
def watched (slot : Bool) (templates : List Frame) (verdicts : List Verdict) : Engine × Report :=
  let (node, lost, signalFail) := e.node.watch e.now
  match { e with node }.offerAll signalFail.toList with
  | (e, none) => (e.fail .scheduler, .quiet)
  | (e, some more) =>
    (e, .ticked ((Tick.mk slot templates lost signalFail).reportOn (verdicts ++ more)))

/-- The engine after it has offered the frames of a slot, and what the link said. -/
def slotted : Engine × Option (List Verdict) :=
  { e with
    node := (e.node.runSlot e.now).1
    due := nextDue e.due e.now }.offerAll (e.node.runSlot e.now).2.2

lemma runSchedule_eq : e.runSchedule = match e.slotted with
    | (e, none) => (e.fail .scheduler, .quiet)
    | (e', some verdicts) =>
      e'.watched (e.node.runSlot e.now).2.1 (e.node.runSlot e.now).2.2 verdicts := rfl

/-! ### What is not looked at -/

/-- An engine that will draw other ids. -/
def redrawn (ids : IdSource) : Engine := { e with node := e.node.redrawn ids }

/-- An engine that will draw other ids and has other frames waiting for their dispatch. -/
def aside (ids : IdSource) (held : DispatchPhase × List Octets) : Engine :=
  (e.redrawn ids).holding held

variable (ids : IdSource) (held : DispatchPhase × List Octets)

lemma offerAll_aside (fs : List Frame) : (e.aside ids held).offerAll fs =
    ((e.offerAll fs).1.aside ids held, (e.offerAll fs).2) := by
  rw [offerAll_eq, offerAll_eq]
  rfl

lemma answered_aside (xs : Octets) (r : Reaction) : (e.aside ids held).answered xs r =
    ((e.answered xs r).1.aside ids held, (e.answered xs r).2) := by
  unfold answered
  rw [offerAll_aside]
  rcases e.offerAll r.offered?.toList with ⟨e', _ | verdicts⟩ <;> rfl

lemma dispatch_aside (time : Nat) (xs : Octets) : (e.aside ids held).dispatch time xs =
    ((e.dispatch time xs).1.aside ids held, (e.dispatch time xs).2) := by
  cases hd : (Frame.decode xs).1 with
  | error cause =>
    unfold dispatch
    rw [hd]
  | ok received =>
    cases received with
    | none =>
      unfold dispatch
      rw [hd]
    | some f =>
      rw [dispatch_of_decode hd, dispatch_of_decode hd, ← answered_aside]
      change ({ (e.aside ids held) with node := ((e.node.redrawn ids).dispatch f time).1 } :
        Engine).answered xs ((e.node.redrawn ids).dispatch f time).2 = _
      rw [Node.dispatch_redrawn]
      rfl

lemma watched_aside (slot : Bool) (templates : List Frame) (verdicts : List Verdict) :
    (e.aside ids held).watched slot templates verdicts =
      ((e.watched slot templates verdicts).1.aside ids held,
        (e.watched slot templates verdicts).2) := by
  unfold watched
  dsimp only
  let d : Engine := { e with node := (e.node.watch e.now).1 }
  have hd := d.offerAll_aside ids held (e.node.watch e.now).2.2.toList
  change (match (d.aside ids held).offerAll (e.node.watch e.now).2.2.toList with
    | (e, none) => _
    | (e, some more) => _) = _
  rw [hd]
  rcases d.offerAll (e.node.watch e.now).2.2.toList with ⟨e', _ | more⟩ <;> rfl

lemma slotted_aside : (e.aside ids held).slotted =
    (e.slotted.1.aside ids held, e.slotted.2) := by
  unfold slotted
  rw [← offerAll_aside]
  change ({ (e.aside ids held) with
    node := ((e.node.redrawn ids).runSlot e.now).1
    due := nextDue e.due e.now } : Engine).offerAll ((e.node.redrawn ids).runSlot e.now).2.2 = _
  rw [Node.runSlot_redrawn]
  rfl

lemma runSchedule_aside : (e.aside ids held).runSchedule =
    (e.runSchedule.1.aside ids held, e.runSchedule.2) := by
  rw [runSchedule_eq, runSchedule_eq, slotted_aside]
  rcases e.slotted with ⟨e', _ | verdicts⟩
  · rfl
  · dsimp only
    rw [← watched_aside]
    change Engine.watched _ ((e.node.redrawn ids).runSlot e.now).2.1
      ((e.node.redrawn ids).runSlot e.now).2.2 _ = _
    rw [Node.runSlot_redrawn]

/-- Nothing that an engine sets aside has changed. -/
structure Spares (e' : Engine) : Prop where
  ids : e'.node.station.ids = e.node.station.ids
  queue : e'.queue = e.queue
  phase : e'.phase = e.phase

section Spares

variable {e} {e' : Engine}

lemma spares_of_aside (h : e' = e'.aside e.node.station.ids (e.phase, e.queue)) : e.Spares e' :=
  ⟨congrArg (·.node.station.ids) h, congrArg (·.queue) h, congrArg (·.phase) h⟩

lemma Spares.redrawn_eq (h : e.Spares e') :
    e'.aside ids (e.phase, e.queue) = e'.redrawn ids := by
  rw [← h.queue, ← h.phase]
  rfl

lemma Spares.holding_eq (h : e.Spares e') :
    e'.aside e.node.station.ids held = e'.holding held := by
  rw [← h.ids]
  rfl

end Spares

-- An engine that is given what it has already is the same engine, so that the equations above speak
-- of the engine itself.

lemma spares_dispatch (time : Nat) (xs : Octets) : e.Spares (e.dispatch time xs).1 :=
  spares_of_aside (congrArg (·.1) (e.dispatch_aside e.node.station.ids (e.phase, e.queue) time xs))

lemma spares_runSchedule : e.Spares e.runSchedule.1 :=
  spares_of_aside (congrArg (·.1) (e.runSchedule_aside e.node.station.ids (e.phase, e.queue)))

lemma dispatch_redrawn (time : Nat) (xs : Octets) : (e.redrawn ids).dispatch time xs =
    ((e.dispatch time xs).1.redrawn ids, (e.dispatch time xs).2) := by
  rw [← (e.spares_dispatch time xs).redrawn_eq]
  exact e.dispatch_aside ids (e.phase, e.queue) time xs

lemma dispatch_holding (time : Nat) (xs : Octets) : (e.holding held).dispatch time xs =
    ((e.dispatch time xs).1.holding held, (e.dispatch time xs).2) := by
  rw [← (e.spares_dispatch time xs).holding_eq]
  exact e.dispatch_aside e.node.station.ids held time xs

lemma runSchedule_redrawn :
    (e.redrawn ids).runSchedule = (e.runSchedule.1.redrawn ids, e.runSchedule.2) := by
  rw [← e.spares_runSchedule.redrawn_eq]
  exact e.runSchedule_aside ids (e.phase, e.queue)

lemma runSchedule_holding :
    (e.holding held).runSchedule = (e.runSchedule.1.holding held, e.runSchedule.2) := by
  rw [← e.spares_runSchedule.holding_eq]
  exact e.runSchedule_aside e.node.station.ids held

lemma trace_holding (target : MacAddress) (ttl : Option UInt8) :
    (e.holding held).trace target ttl =
      ((e.trace target ttl).1.holding held, (e.trace target ttl).2) := by
  have hn : (e.holding held).node = e.node := rfl
  unfold trace
  rw [hn]
  rcases e.node.linktrace target ttl with ⟨node, _ | ⟨id, f⟩⟩ <;> rfl

end Engine

/-! ### What the node does -/

/-- What an engine has its node do. -/
inductive NodeAct
  | dispatch (f : Frame) (time : Nat)
  | slot (now : Nat)
  | watch (now : Nat)
  | linktrace (target : MacAddress) (ttl : Option UInt8)

def Node.act (n : Node) : NodeAct → Node
  | .dispatch f time => (n.dispatch f time).1
  | .slot now => (n.runSlot now).1
  | .watch now => (n.watch now).1
  | .linktrace target ttl => (n.linktrace target ttl).1

namespace Engine

variable (e : Engine)

/-- What the dispatch of octets has the node do. -/
def dispatchActs (time : Nat) (xs : Octets) : List NodeAct :=
  match (Frame.decode xs).1 with
  | .ok (some f) => [.dispatch f time]
  | _ => []

/-- What a wake-up of the schedule has the node do. It stops short if a frame of the slot crashes
the activity. -/
def scheduleActs : List NodeAct :=
  .slot e.now :: if e.slotted.2.isSome then [.watch e.now] else []

/-- What a step has the node do. -/
def actsAt : Event → List NodeAct
  | .handle => match e.upNext.1 with
    | some (time, xs) => dispatchActs time xs
    | none => []
  | .tick => if Activity.scheduler ∉ e.live ∨ e.now < e.due then [] else e.scheduleActs
  | .linktrace target ttl => [.linktrace target ttl]
  | _ => []

/-- What a run has the node do. -/
def acts (e : Engine) : List Event → List NodeAct
  | [] => []
  | ev :: evs => e.actsAt ev ++ (e.step ev).1.acts evs

lemma node_answered (xs : Octets) (r : Reaction) : (e.answered xs r).1.node = e.node := by
  unfold answered
  rw [offerAll_eq]
  cases (e.wire.offerUnless e.crashes e.now r.offered?.toList).2 <;> rfl

lemma node_watched (slot : Bool) (templates : List Frame) (verdicts : List Verdict) :
    (e.watched slot templates verdicts).1.node = (e.node.watch e.now).1 := by
  unfold watched
  dsimp only
  rw [offerAll_eq]
  cases (e.wire.offerUnless e.crashes e.now (e.node.watch e.now).2.2.toList).2 <;> rfl

lemma node_dispatch (time : Nat) (xs : Octets) :
    (e.dispatch time xs).1.node = (dispatchActs time xs).foldl Node.act e.node := by
  unfold dispatchActs
  cases hd : (Frame.decode xs).1 with
  | error cause =>
    unfold dispatch
    rw [hd]
    rfl
  | ok received =>
    cases received with
    | none =>
      unfold dispatch
      rw [hd]
      rfl
    | some f =>
      rw [dispatch_of_decode hd, node_answered]
      rfl

lemma node_runSchedule : e.runSchedule.1.node = e.scheduleActs.foldl Node.act e.node := by
  have hs : e.slotted.1.node = (e.node.runSlot e.now).1 := by
    unfold slotted
    rw [offerAll_eq]
  have hn : e.slotted.1.now = e.now := by
    unfold slotted
    rw [offerAll_eq]
  rw [runSchedule_eq]
  unfold scheduleActs
  generalize e.slotted = r at hs hn
  rcases r with ⟨e', _ | verdicts⟩
  · exact hs
  · refine (e'.node_watched ..).trans ?_
    rw [hs, hn]
    rfl

/-- A step changes the node by what it has the node do. -/
theorem node_step (ev : Event) : (e.step ev).1.node = (e.actsAt ev).foldl Node.act e.node := by
  cases ev with
  | read result =>
    unfold step
    dsimp only
    split
    · rfl
    · cases result <;> rfl
  | wake =>
    rw [step_wake]
    rfl
  | drain =>
    rw [step_drain]
    rfl
  | handle =>
    rw [step_handle]
    unfold actsAt
    rcases e.upNext with ⟨_ | ⟨time, xs⟩, phase⟩
    · rfl
    · exact node_dispatch ..
  | tick =>
    unfold step actsAt
    dsimp only
    split
    · rfl
    · exact e.node_runSchedule
  | elapse millis => rfl
  | linktrace target ttl =>
    change (e.trace target ttl).1.node = (e.node.linktrace target ttl).1
    unfold trace
    rcases e.node.linktrace target ttl with ⟨node, _ | ⟨id, f⟩⟩ <;> rfl
  | cancel => rfl
  | leave a =>
    unfold step
    dsimp only
    split <;> rfl

theorem node_run (evs : List Event) : (e.run evs).1.node = (e.acts evs).foldl Node.act e.node := by
  induction evs generalizing e with
  | nil => rfl
  | cons ev evs ih =>
    unfold acts
    rw [List.foldl_append, ← node_step]
    exact ih (e.step ev).1

end Engine
end RingContinuity
