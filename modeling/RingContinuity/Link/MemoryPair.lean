import RingContinuity.Padding

/-!
# Links in memory

Two endpoints in one process that are connected to each other, or a single one that is connected to
nothing. Every endpoint has an inbox, which its peer sends to and into which frames can be injected,
and a record of everything that was handed to it for sending.
-/

namespace RingContinuity

/-- One end of a link in memory. -/
structure Endpoint where
  address : MacAddress
  /-- What has arrived and was not received yet, oldest first. -/
  inbox : List Octets := []
  /-- What was handed over for sending since the record was last taken, oldest first. -/
  record : List Octets := []
  dropped : Bool := false
  deriving DecidableEq

/-- The two ends of a link. -/
inductive Side
  | first | second
  deriving DecidableEq

def Side.other : Side → Side
  | first => second
  | second => first

/-- A link in memory. The second end of an unconnected endpoint is missing. -/
structure MemoryLink where
  first : Endpoint
  second : Option Endpoint
  deriving DecidableEq

namespace MemoryLink

def single (a : MacAddress) : MemoryLink := ⟨{ address := a }, none⟩

def pair (a b : MacAddress) : MemoryLink := ⟨{ address := a }, some { address := b }⟩

def endpoint? (l : MemoryLink) : Side → Option Endpoint
  | .first => some l.first
  | .second => l.second

def update (l : MemoryLink) (side : Side) (change : Endpoint → Endpoint) : MemoryLink :=
  match side with
  | .first => { l with first := change l.first }
  | .second => { l with second := l.second.map change }

def inject (l : MemoryLink) (side : Side) (xs : Octets) : MemoryLink :=
  l.update side fun p => { p with inbox := p.inbox ++ [xs] }

/-- Sends octets from an end: they are recorded first and then delivered to the peer. -/
def send (l : MemoryLink) (side : Side) (xs : Octets) : MemoryLink × Except Error Unit :=
  let recorded := l.update side fun p => { p with record := p.record ++ [xs] }
  match l.endpoint? side.other with
  | none => (recorded, .ok ())
  | some peer =>
    if peer.dropped then (recorded, .error (.transport .peerDropped))
    else (recorded.inject side.other xs, .ok ())

/-- Sends a frame, filled up to the shortest frame length. -/
def sendFrame (l : MemoryLink) (side : Side) (f : Frame) : MemoryLink × Except Error Unit :=
  l.send side f.onLink

/-- Takes the oldest frame out of the inbox of an end. -/
def receive (l : MemoryLink) (side : Side) : MemoryLink × Option Octets :=
  (l.update side fun p => { p with inbox := p.inbox.tail },
    (l.endpoint? side).bind fun p => p.inbox.head?)

/-- What was sent from an end since its record was last taken. -/
def sent (l : MemoryLink) (side : Side) : List Octets :=
  ((l.endpoint? side).map (·.record)).getD []

def takeSent (l : MemoryLink) (side : Side) : MemoryLink × List Octets :=
  (l.update side fun p => { p with record := [] }, l.sent side)

/-- Destroys an end. What it has delivered stays with its peer. -/
def drop (l : MemoryLink) (side : Side) : MemoryLink :=
  l.update side fun p => { p with dropped := true }

end MemoryLink
end RingContinuity
