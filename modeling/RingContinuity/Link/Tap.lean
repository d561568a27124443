import RingContinuity.Link.PacketSocket
import RingContinuity.Padding

/-!
# Sockets on a link

A packet socket on an Ethernet interface whose link has one other station. What that station sends
waits in a queue; what the socket sends is seen by that station if the interface takes it.
-/

namespace RingContinuity

/-- A socket and what waits for it, oldest first. -/
structure Tap where
  socket : PacketSocket
  queue : List Octets := []
  deriving DecidableEq

/-- How a system call is made to fail or to fall short. -/
inductive Interference
  | none
  | failure (cause : SystemError)
  /-- The call reports that it took so many octets, and nothing goes out. -/
  | short (written : Nat)
  deriving DecidableEq

namespace Tap

def arrive (t : Tap) (xs : Octets) : Tap := { t with queue := t.queue ++ [xs] }

/-- One read. A call that fails leaves the queue alone, and an empty queue means that nothing has
arrived yet. -/
def receive (t : Tap) (failure : Option SystemError) : Tap × Except Error (Option Octets) :=
  match failure, t.queue with
  | some cause, _ => (t, t.socket.receive (.error cause))
  | none, [] => (t, t.socket.receive (.error .wouldBlock))
  | none, xs :: rest => ({ t with queue := rest }, t.socket.receive (.ok xs))

/-- Sends octets: the outcome, and what the other station sees. -/
def send (t : Tap) (xs : Octets) (i : Interference) : Except Error Unit × Option Octets :=
  match i with
  | .failure cause => (t.socket.sent xs (.error cause), none)
  | .short written => (t.socket.sent xs (.ok written), none)
  | .none => match Ethernet.verdict xs with
    | .ok () => (t.socket.sent xs (.ok xs.length), some xs)
    | .error cause => (t.socket.sent xs (.error cause), none)

/-- Sends a frame, filled up to the shortest frame length. -/
def sendFrame (t : Tap) (f : Frame) (i : Interference) : Except Error Unit × Option Octets :=
  t.send f.onLink i

end Tap
end RingContinuity
