import RingContinuity.Frame.Fields
import RingContinuity.Link.Ethernet
import RingContinuity.MacAddress.Reader
import RingContinuity.Text.Blank

/-!
# Packet sockets

A socket that sends and receives whole frames on one interface of a host. The host is asked for
everything by system calls, and what they report is part of the `Host`. The socket hands on the
continuity and ring protection frames of other stations and nothing else.
-/

namespace RingContinuity

/-- A host as far as opening a socket can tell. -/
structure Host where
  privileged : Bool
  interfaces : List NetworkInterface
  /-- The failures of the system calls that open a socket, bind it, make it join all groups and set
  its timeout. -/
  openFailure : Option SystemError := none
  bindFailure : Option SystemError := none
  joinFailure : Option SystemError := none
  timeoutFailure : Option SystemError := none

namespace Host

/-- The interface of a name. A name cannot contain the character that ends it. -/
def lookup (h : Host) (name : String) : Except LookupFailure NetworkInterface :=
  if '\x00' ∈ name.toList then .error .invalidName
  else match h.interfaces.find? (·.name == name) with
    | some i => .ok i
    | none => .error .noSuchDevice

/-- The text of the file with the address of an interface. -/
def addressText (i : NetworkInterface) : Except SystemError String :=
  match i.addressFile with
  | none => .error .noSuchFile
  | some xs => match Utf8.decode? xs with
    | none => .error .notUtf8
    | some s => .ok s

/-- The address of an interface according to its file, blanks around it aside. -/
def hardwareAddress (i : NetworkInterface) : Except Error MacAddress :=
  match addressText i with
  | .error cause => .error (.transport (.readFile (NetworkInterface.addressPath i.name) cause))
  | .ok s => MacAddress.ofText (Text.trim s)

end Host

/-- An open socket: the name of its interface and the address of the station. -/
structure PacketSocket where
  interface : String
  own : MacAddress
  deriving DecidableEq

namespace PacketSocket

def check (failure : Option SystemError) (error : SystemError → Error) : Except Error Unit :=
  match failure with
  | none => .ok ()
  | some cause => .error (error cause)

/-- Opens a socket on an interface. The address of the station is the given one, or that of the
interface. -/
def openOn (host : Host) (name : String) (own : Option MacAddress) :
    Except Error PacketSocket := do
  if !host.privileged then throw (.transport .notPrivileged)
  let interface ← (host.lookup name).mapError fun cause => .transport (.unknownInterface name cause)
  check host.openFailure fun cause => .transport (.openSocket cause)
  check host.bindFailure fun cause => .transport (.bind interface.index cause)
  check host.joinFailure fun cause => .transport (.allMulticast cause)
  check host.timeoutFailure .io
  match own with
  | some own => return ⟨name, own⟩
  | none => return ⟨name, ← Host.hardwareAddress interface⟩

/-- The octets that one read takes of a datagram at most. -/
def bufferLength : Nat := 2048

/-- Whether a frame is one for the program: sent by another station, and a continuity or ring
protection frame. -/
def admits (s : PacketSocket) (f : Frame) : Bool :=
  match f.source with
  | .ok source => source ≠ s.own && f.isCfm
  | .error _ => false

/-- What the socket makes of the octets that a read brought. -/
def accept? (s : PacketSocket) (xs : Octets) : Option Octets :=
  match Frame.ofOctets xs with
  | .ok f => if s.admits f then some xs else none
  | .error _ => none

/-- One read, given the datagram that waits or the failure of the system call. -/
def receive (s : PacketSocket) (datagram : Except SystemError Octets) :
    Except Error (Option Octets) :=
  match datagram with
  | .ok xs => .ok (s.accept? (xs.take bufferLength))
  | .error cause => if cause.meansNothingYet then .ok none else .error (.io cause)

/-- The outcome of sending octets, given how many the system call took or its failure. -/
def sent (s : PacketSocket) (xs : Octets) (written : Except SystemError Nat) :
    Except Error Unit :=
  match written with
  | .error cause => .error (.io cause)
  | .ok n => if n = xs.length then .ok ()
    else .error (.transport (.shortWrite s.interface n xs.length))

end PacketSocket
end RingContinuity
