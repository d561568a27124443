import RingContinuity.Config
import RingContinuity.Frame.Fields

/-!
# Ring automatic protection switching

The message by which a station tells the ring what it wants: a request, three status bits and the
id of the station. A short payload reads as if zeros followed.
-/

namespace RingContinuity

/-- The requests that the protocol defines. -/
inductive RingRequest
  | noRequest | manualSwitch | signalFail | forcedSwitch | event
  deriving DecidableEq

namespace RingRequest

def code : RingRequest → UInt8
  | noRequest => 0
  | manualSwitch => 7
  | signalFail => 11
  | forcedSwitch => 13
  | event => 14

def ofCode (octet : UInt8) : Except Error RingRequest :=
  match octet.toNat with
  | 0 => .ok noRequest
  | 7 => .ok manualSwitch
  | 11 => .ok signalFail
  | 13 => .ok forcedSwitch
  | 14 => .ok event
  | _ => .error (.malformed (.unknownRingRequest octet))

end RingRequest

/-- The status bits of a ring protection message. -/
structure RingStatus where
  blocked : Bool
  doNotFlush : Bool
  portReference : Bool
  deriving DecidableEq

namespace RingStatus

def clear : RingStatus := ⟨false, false, false⟩

/-- The bits in the upper half of an octet; the five others are zero. -/
def octet (s : RingStatus) : UInt8 :=
  (if s.blocked then 0x80 else 0) ||| (if s.doNotFlush then 0x40 else 0) |||
    (if s.portReference then 0x20 else 0)

def ofOctet (b : UInt8) : RingStatus :=
  ⟨b &&& 0x80 != 0, b &&& 0x40 != 0, b &&& 0x20 != 0⟩

end RingStatus

/-- The fields of a ring protection message. -/
structure RingAps where
  requestCode : UInt8
  subCode : UInt8
  status : RingStatus
  nodeId : MacAddress
  deriving DecidableEq

namespace RingAps

/-- The length of the fields in octets. -/
def size : Nat := 32

def ofRequest (r : RingRequest) (nodeId : MacAddress) : RingAps := ⟨r.code, 0, .clear, nodeId⟩

/-- The request, if its code is one that the protocol defines. -/
def request? (p : RingAps) : Option RingRequest := (RingRequest.ofCode p.requestCode).toOption

/-- The octets of the fields; of both codes four bits count. -/
def encode (p : RingAps) : Octets :=
  Octets.fit
    ((((p.requestCode &&& 0x0F) <<< 4) ||| (p.subCode &&& 0x0F)) :: p.status.octet ::
      p.nodeId.octets) size

def decode (xs : Octets) (h : xs.length = size) : RingAps :=
  have : xs.length = 32 := h
  ⟨xs[0] >>> 4, xs[0] &&& 0x0F, RingStatus.ofOctet xs[1], MacAddress.readAt xs 2 (by omega)⟩

/-- Everything that a ring protection message has behind its Ethernet header. -/
def body (level : UInt8) (p : RingAps) : Frame.Edit Unit := do
  Frame.addHeader level 0 Opcode.raps.firstTlvOffset .raps 1
  Frame.put p.encode
  Frame.addEndTlv

/-- A ring protection message to the ring of a station. -/
def build (config : Config) (own : MacAddress) (p : RingAps) : Except Error Frame := do
  let tag ← config.tag
  (Frame.start (MacAddress.ringGroup config.ringId) own tag).edited (body config.level p)

/-- The message by which a station reports that its ring has failed. -/
def buildSignalFail (config : Config) (own : MacAddress) : Except Error Frame :=
  build config own (ofRequest .signalFail own)

/-- Reads a ring protection message. Neither address plays a part, and unknown requests are kept as
their codes. -/
def parse (f : Frame) : Except Error RingAps := do
  if !f.isCfm then throw (.mismatch .notCfm)
  let header ← f.header
  if header.opcode ≠ Opcode.raps.code then throw (.mismatch .notRaps)
  let payload ← f.payload
  return decode (Octets.fit payload size) (Octets.length_fit ..)

end RingAps
end RingContinuity
