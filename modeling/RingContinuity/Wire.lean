import RingContinuity.Node
import RingContinuity.Padding

/-!
# Wires

The sending side of a link, seen from a station: frames are offered to it one after another, it
takes or refuses each of them, and what it has taken is on the link.
-/

namespace RingContinuity

/-- What a link says to a frame that is offered to it. -/
abbrev Verdict := Except Error Unit

/-- The sending side of a link. -/
structure Wire where
  /-- What it says to the `n`-th frame offered, counted from zero. -/
  verdict : Nat → Octets → Verdict
  offered : Nat := 0
  /-- The frames taken so far, each with the time, in order. -/
  sent : List (Nat × Octets) := []

namespace Wire

/-- Offers a frame, filled up to the shortest frame length. -/
def offer (w : Wire) (now : Nat) (f : Frame) : Wire × Verdict :=
  let verdict := w.verdict w.offered f.onLink
  ({ w with
      offered := w.offered + 1
      sent := match verdict with
        | .ok () => w.sent ++ [(now, f.onLink)]
        | .error _ => w.sent }, verdict)

def offerAll (w : Wire) (now : Nat) : List Frame → Wire × List Verdict
  | [] => (w, [])
  | f :: fs =>
    let (w, verdict) := w.offer now f
    let (w, verdicts) := w.offerAll now fs
    (w, verdict :: verdicts)

end Wire

/-- The report on a tick, given the verdicts on everything that it offered. -/
def Tick.reportOn (t : Tick) (verdicts : List Verdict) : TickReport :=
  t.report fun i => match verdicts[i]? with
    | some (.ok ()) => true
    | _ => false

def Node.tickOn (n : Node) (w : Wire) (now : Nat) : Node × Wire × TickReport :=
  let (n, tick) := n.tick now
  let (w, verdicts) := w.offerAll now tick.offered
  (n, w, tick.reportOn verdicts)

def Reaction.on (r : Reaction) (w : Wire) (now : Nat) : Wire × Except Error Dispatched :=
  match r.offered? with
  | none => (w, r.outcome (.ok ()))
  | some f =>
    let (w, verdict) := w.offer now f
    (w, r.outcome verdict)

end RingContinuity
