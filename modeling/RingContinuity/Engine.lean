import RingContinuity.Wire

/-!
# Engines

An engine runs a node on a link. Three activities share it: one reads frames off the link into a
queue, one takes queued frames in batches and dispatches them, and one wakes the schedule. `step`
performs a single step of one of them, so that a list of events is one way in which their steps
interleave. An activity that crashes stops the engine.
-/

namespace RingContinuity

/-- What the dispatching activity is doing. -/
inductive DispatchPhase
  | idle
  | collecting (batch : List Octets)
  /-- It works off a batch, which counts as received at `time`. -/
  | handling (time : Nat) (batch : List Octets)
  deriving DecidableEq

/-- What one read of the link brings. -/
inductive Read
  | frame (octets : Octets)
  | nothing
  | failed (cause : Error)
  | crashed
  deriving DecidableEq

/-- An engine and the link that it runs on. -/
structure Engine where
  node : Node
  wire : Wire
  /-- Whether offering the `n`-th frame crashes the activity that offers it. -/
  crashes : Nat → Bool := fun _ => false
  now : Nat := 0
  /-- The time at which the scheduling activity wakes next. -/
  due : Nat := 0
  queue : List Octets := []
  phase : DispatchPhase := .idle
  live : List Activity := [.receive, .dispatch, .scheduler]
  cancelled : Bool := false
  crashed : List Activity := []

/-- A step of an engine, or something that happens to it. -/
inductive Event
  | read (result : Read)
  | wake
  /-- It takes one more queued frame; if there is none, its batch is complete. -/
  | drain
  /-- It decodes and dispatches the next frame of its batch. -/
  | handle
  | tick
  | elapse (millis : Nat)
  /-- The operator asks for the path to a target. -/
  | linktrace (target : MacAddress) (ttl : Option UInt8)
  | cancel
  /-- An activity notices that the engine is to stop. -/
  | leave (activity : Activity)

/-- What a step shows. -/
inductive Report
  | quiet
  | obtained (octets : Octets)
  /-- These octets were decoded and dispatched; an empty string holds no frame. -/
  | decoded (octets : Octets) (result : Except Error (Option Dispatched))
  | ticked (report : TickReport)
  /-- The id of the linktrace message that was sent. -/
  | traced (result : Except Error UInt32)

namespace Engine

/-- The scheduling activity wakes every 20 milliseconds. -/
def wakeUpPeriod : Nat := 20

/-- A wake-up counts as late if it happens more than 5 milliseconds after it was due. -/
def lateness : Nat := 5

/-- When the wake-up after one that was due at `due` and happened at `now` is due. -/
def nextDue (due now : Nat) : Nat :=
  if now ≤ due + lateness then due + wakeUpPeriod else now + wakeUpPeriod

/-- The address that a station uses: the configured one, or that of its interface. It has to be the
address of a station. -/
def ownAddress (config : Config) (interfaceMac : MacAddress) : Except Error MacAddress :=
  let own := config.localMac.getD interfaceMac
  if own = .zero ∨ own.isGroup then .error (.config (.unusableAddress own)) else .ok own

/-- An engine that has not started. The configuration is checked first. -/
def create (config : Config) (interfaceMac : MacAddress) (ids : IdSource) (wire : Wire) :
    Except Error Engine := do
  config.validate
  let own ← ownAddress config interfaceMac
  let node ← Node.create config own ids 0
  return { node, wire }

def stop (e : Engine) (a : Activity) : Engine := { e with live := e.live.filter (· ≠ a) }

/-- The engine after an activity has crashed, which stops the others too. -/
def fail (e : Engine) (a : Activity) : Engine :=
  { e.stop a with cancelled := true, crashed := e.crashed ++ [a] }

/-- How the engine ends: with the crash of the dispatching, the scheduling or the receiving
activity, in this order, or well. -/
def result (e : Engine) : Except Error Unit :=
  match [Activity.dispatch, .scheduler, .receive].find? (· ∈ e.crashed) with
  | some a => .error (.task (.crashed a))
  | none => .ok ()

/-- Offers frames in order. Nothing comes back if one of them crashes the activity. -/
def offerAll (e : Engine) : List Frame → Engine × Option (List Verdict)
  | [] => (e, some [])
  | f :: fs =>
    if e.crashes e.wire.offered then (e, none)
    else
      let (wire, verdict) := e.wire.offer e.now f
      let (e, verdicts) := { e with wire }.offerAll fs
      (e, verdicts.map (verdict :: ·))

def dispatch (e : Engine) (time : Nat) (xs : Octets) : Engine × Report :=
  match (Frame.decode xs).1 with
  | .error cause => (e, .decoded xs (.error cause))
  | .ok none => (e, .decoded xs (.ok none))
  | .ok (some f) =>
    let (node, reaction) := e.node.dispatch f time
    match { e with node }.offerAll reaction.offered?.toList with
    | (e, none) => (e.fail .dispatch, .quiet)
    | (e, some verdicts) =>
      (e, .decoded xs ((reaction.outcome (verdicts.headD (.ok ()))).map some))

def runSchedule (e : Engine) : Engine × Report :=
  let (node, slot, templates) := e.node.runSlot e.now
  match { e with node, due := nextDue e.due e.now }.offerAll templates with
  | (e, none) => (e.fail .scheduler, .quiet)
  | (e, some verdicts) =>
    let (node, lost, signalFail) := e.node.watch e.now
    match { e with node }.offerAll signalFail.toList with
    | (e, none) => (e.fail .scheduler, .quiet)
    | (e, some more) =>
      (e, .ticked ((Tick.mk slot templates lost signalFail).reportOn (verdicts ++ more)))

/-- Asks for the path to a target and says which id the message has. -/
def trace (e : Engine) (target : MacAddress) (ttl : Option UInt8) :
    Engine × Except Error UInt32 :=
  match e.node.linktrace target ttl with
  | (node, .error cause) => ({ e with node }, .error cause)
  | (node, .ok (id, f)) =>
    let (wire, verdict) := e.wire.offer e.now f
    ({ e with node, wire }, verdict.map fun _ => id)

/-- One step. A step of an activity that has ended, or for which there is nothing to do, changes
nothing. -/
def step (e : Engine) : Event → Engine × Report
  | .read result =>
    if Activity.receive ∉ e.live then (e, .quiet)
    else match result with
      | .frame xs => ({ e with queue := e.queue ++ [xs] }, .obtained xs)
      | .crashed => (e.fail .receive, .quiet)
      | .nothing => (e, .quiet)
      | .failed _ => (e, .quiet)
  | .wake =>
    if Activity.dispatch ∉ e.live then (e, .quiet)
    else match e.phase, e.queue with
      | .idle, xs :: rest => ({ e with phase := .collecting [xs], queue := rest }, .quiet)
      | _, _ => (e, .quiet)
  | .drain =>
    if Activity.dispatch ∉ e.live then (e, .quiet)
    else match e.phase, e.queue with
      | .collecting batch, xs :: rest =>
        ({ e with phase := .collecting (batch ++ [xs]), queue := rest }, .quiet)
      | .collecting batch, [] => ({ e with phase := .handling e.now batch }, .quiet)
      | _, _ => (e, .quiet)
  | .handle =>
    if Activity.dispatch ∉ e.live then (e, .quiet)
    else match e.phase with
      | .handling time (xs :: rest) => { e with phase := .handling time rest }.dispatch time xs
      | .handling _ [] => ({ e with phase := .idle }, .quiet)
      | _ => (e, .quiet)
  | .tick =>
    if Activity.scheduler ∉ e.live ∨ e.now < e.due then (e, .quiet) else e.runSchedule
  | .elapse millis => ({ e with now := e.now + millis }, .quiet)
  | .linktrace target ttl =>
    let (e, result) := e.trace target ttl
    (e, .traced result)
  | .cancel => ({ e with cancelled := true }, .quiet)
  | .leave a =>
    if !e.cancelled || (a = .dispatch && e.phase ≠ .idle) then (e, .quiet) else (e.stop a, .quiet)

/-- A run: the engine after a list of events and what each of them showed. -/
def run (e : Engine) : List Event → Engine × List Report
  | [] => (e, [])
  | ev :: evs =>
    let (e, report) := e.step ev
    let (e, reports) := e.run evs
    (e, report :: reports)

/-- The events of a delivery: all frames are read, then taken as one batch and worked off. -/
def deliveryEvents (frames : List Octets) : List Event :=
  frames.map (fun xs => .read (.frame xs)) ++ [.wake] ++ List.replicate frames.length .drain ++
    List.replicate (frames.length + 1) .handle

def deliver (e : Engine) (frames : List Octets) : Engine := (e.run (deliveryEvents frames)).1

def begin (e : Engine) : Engine := (e.step .tick).1

/-- Lets time pass in one go; the scheduling activity wakes at most once. -/
def jump (e : Engine) (millis : Nat) : Engine := (e.run [.elapse millis, .tick]).1

/-- Lets time pass in wake-up periods, `n` of them; the scheduling activity wakes in each. -/
def glide (e : Engine) : Nat → Engine
  | 0 => e
  | n + 1 => (e.jump wakeUpPeriod).glide n

end Engine
end RingContinuity
