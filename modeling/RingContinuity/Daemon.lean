import RingContinuity.CommandLine.Reader
import RingContinuity.Engine
import RingContinuity.Link.PacketSocket

/-!
# The daemon

What the program does from its command line on: it opens a socket, traces a path if it is told to,
and runs an engine on the socket until it is stopped. How it ends by itself is an `Ending`.
-/

namespace RingContinuity.Daemon

open CommandLine

/-- How the program ends before it is stopped. -/
inductive Ending
  | usage (cause : Usage)
  | failed (cause : Error)
  deriving DecidableEq

namespace Ending

def exitCode : Ending → Nat
  | usage cause => cause.exitCode
  | failed _ => 1

/-- What the program reports as an error before it ends. -/
def report : Ending → List String
  | usage _ => []
  | failed cause => [cause.message]

end Ending

/-- A running daemon. -/
structure Session where
  socket : PacketSocket
  engine : Engine

/-- The session that a command line starts on a host. The path to a target is asked for first of
all. -/
def start (words : List String) (host : Host) (ids : IdSource) (wire : Wire) :
    Except Ending Session := do
  let arguments ← (Arguments.ofWords words).mapError .usage
  let config ← arguments.checkedConfig.mapError .failed
  let socket ← (PacketSocket.openOn host config.interface config.localMac).mapError .failed
  let engine ← (Engine.create config socket.own ids wire).mapError .failed
  match arguments.linktrace with
  | none => return { socket, engine }
  | some target =>
    let (engine, result) := engine.trace target none
    let _ ← result.mapError .failed
    return { socket, engine }

namespace Session

/-- The session in which the schedule has woken for the first time. -/
def begin (s : Session) : Session := { s with engine := s.engine.begin }

/-- Other stations send frames, and the session deals with those that the socket hands on. -/
def receive (s : Session) (frames : List Octets) : Session :=
  { s with
    engine := s.engine.deliver <|
      frames.filterMap fun xs => s.socket.accept? (xs.take PacketSocket.bufferLength) }

def elapse (s : Session) (millis : Nat) : Session := { s with engine := s.engine.jump millis }

/-- Takes the frames off the record of what was sent. -/
def takeSent (s : Session) : Session × List Octets :=
  ({ s with engine := { s.engine with wire := { s.engine.wire with sent := [] } } },
    s.engine.wire.sent.map (·.2))

def isReply (xs : Octets) : Bool :=
  match (Frame.ofOctets xs).bind Frame.opcode with
  | .ok k => k = .lbr || k = .ltr
  | .error _ => false

def replies (s : Session) : List Octets := (s.engine.wire.sent.map (·.2)).filter isReply

/-- The frames on the link that were not asked for. -/
def originated (s : Session) : List Octets :=
  (s.engine.wire.sent.map (·.2)).filter fun xs => !isReply xs

/-- Time passes in wake-up periods, at most `n` of them, until `wanted` frames were originated. -/
def waitFor (s : Session) (wanted : Nat) : Nat → Session
  | 0 => s
  | n + 1 =>
    if wanted ≤ s.originated.length then s
    else (s.elapse Engine.wakeUpPeriod).waitFor wanted n

/-- The number of wake-up periods within which an end point that was heard last at the start is
lost. -/
def lossPeriods (s : Session) : Nat :=
  s.engine.node.station.meps.lossThreshold / Engine.wakeUpPeriod + 1

/-- A whole session: frames arrive at once, and it goes on until it has originated `wanted` frames
or every silence has become a loss. -/
def run (s : Session) (frames : List Octets) (wanted : Nat) : Session :=
  let s := s.begin.receive frames
  s.waitFor wanted s.lossPeriods

end Session
end RingContinuity.Daemon
