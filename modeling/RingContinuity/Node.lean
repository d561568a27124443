import RingContinuity.Station

/-!
# Nodes

A node is a station with a schedule. At every interval it sends its continuity check and loopback
message, unless it skips the slot, and at every tick it looks for end points that fell silent and
reports them to the ring.
-/

namespace RingContinuity

/-- The frames that a node sends by the clock, and when. -/
structure Schedule where
  /-- The continuity check, if the node has an end point id. -/
  ccm : Option Frame
  /-- The loopback message, if the node has a target. -/
  lbm : Option Frame
  signalFail : Frame
  /-- The number of slots that have elapsed, which wraps. -/
  sequence : UInt32 := 0
  nextLbmId : UInt32
  /-- The time at which the next slot is due. -/
  nextSlot : Nat

namespace Schedule

/-- The schedule of a station, whose first slot is due at `start`. -/
def create (config : Config) (own : MacAddress) (firstLbmId : UInt32) (start : Nat) :
    Except Error Schedule := do
  let ccm ← match config.mepId with
    | some _ => (Ccm.build config own).map some
    | none => .ok none
  let lbm ← match config.remoteMac with
    | some _ => (Loopback.build config own 0).map some
    | none => .ok none
  let signalFail ← RingAps.buildSignalFail config own
  return { ccm, lbm, signalFail, nextLbmId := firstLbmId, nextSlot := start }

/-- Whether frames are sent in the current slot: in one of every `skips + 1`. -/
def transmits (s : Schedule) (skips : UInt32) : Bool := s.sequence.toNat % (skips.toNat + 1) == 0

/-- The schedule after a slot at `now`. The next slot is due one interval after this one was, and
one interval after `now` if that is over already. -/
def advance (s : Schedule) (period now : Nat) : Schedule :=
  { s with
    sequence := s.sequence + 1
    nextSlot := if s.nextSlot + period ≤ now then now + period else s.nextSlot + period }

end Schedule

/-- A station with a schedule. -/
structure Node where
  station : Station
  schedule : Schedule

/-- What a node does at a tick. -/
structure Tick where
  slot : Bool
  /-- The frames of the slot, in the order in which they are offered to the link. -/
  templates : List Frame
  lost : List UInt16
  signalFail : Option Frame

/-- What a tick came to, given what the link said. -/
structure TickReport where
  slot : Bool
  framesSent : Nat
  newlyDefective : List UInt16
  signalFailSent : Bool
  deriving DecidableEq

namespace Tick

def offered (t : Tick) : List Frame := t.templates ++ t.signalFail.toList

/-- The report, given which of the offered frames the link took. -/
def report (t : Tick) (taken : Nat → Bool) : TickReport where
  slot := t.slot
  framesSent := (List.range t.offered.length).countP taken
  newlyDefective := t.lost
  signalFailSent := t.signalFail.isSome && taken t.templates.length

end Tick

namespace Node

/-- A node that has done nothing yet. The first id that it draws is that of its first loopback
message. -/
def create (config : Config) (own : MacAddress) (ids : IdSource) (start : Nat) :
    Except Error Node := do
  let schedule ← Schedule.create config own ids.draw.1 start
  return ⟨Station.create config own ids.draw.2, schedule⟩

def stampedCcm? (n : Node) : Option Frame :=
  n.schedule.ccm.bind fun f => (f.edited (Frame.setTransactionId n.schedule.sequence)).toOption

def stampedLbm? (n : Node) : Option Frame :=
  n.schedule.lbm.bind fun f => (f.edited (Frame.setTransactionId n.schedule.nextLbmId)).toOption

def awaitLbr (n : Node) : Node :=
  { station := { n.station with
      outstanding := n.station.outstanding.awaitLoopback n.schedule.nextLbmId }
    schedule := { n.schedule with nextLbmId := n.schedule.nextLbmId + 1 } }

/-- The frames of a slot, and the node after it has offered them. -/
def transmit (n : Node) : Node × List Frame :=
  match n.stampedLbm? with
  | some lbm => (n.awaitLbr, n.stampedCcm?.toList ++ [lbm])
  | none => (n, n.stampedCcm?.toList)

/-- The first half of a tick: the slot, if one is due. -/
def runSlot (n : Node) (now : Nat) : Node × Bool × List Frame :=
  if now < n.schedule.nextSlot then (n, false, [])
  else
    let (n', frames) :=
      if n.schedule.transmits n.station.config.skips then n.transmit else (n, [])
    ({ n' with schedule := n'.schedule.advance n.station.config.interval.millis now }, true, frames)

/-- The second half of a tick: the sweep, and one report to the ring if it found anything. -/
def watch (n : Node) (now : Nat) : Node × List UInt16 × Option Frame :=
  let (meps, lost) := n.station.meps.sweep now
  ({ n with station := { n.station with meps } }, lost,
    if lost = [] then none else some n.schedule.signalFail)

def tick (n : Node) (now : Nat) : Node × Tick :=
  let (n, slot, templates) := n.runSlot now
  let (n, lost, signalFail) := n.watch now
  (n, ⟨slot, templates, lost, signalFail⟩)

def dispatch (n : Node) (f : Frame) (now : Nat) : Node × Reaction :=
  let (station, reaction) := n.station.dispatch f now
  ({ n with station }, reaction)

def linktrace (n : Node) (target : MacAddress) (ttl : Option UInt8) :
    Node × Except Error (UInt32 × Frame) :=
  let (station, result) := n.station.linktrace target ttl
  ({ n with station }, result)

end Node
end RingContinuity
