import RingContinuity.Config
import RingContinuity.Frame.Fields

/-!
# Linktrace

A station asks for the path to a target with a linktrace message; the stations on the path, the
target among them, reply.
-/

namespace RingContinuity

/-- What a station that replies did with the linktrace message. -/
inductive RelayAction
  | hit
  | filtered
  | continuity
  deriving DecidableEq

namespace RelayAction

def code : RelayAction → UInt8
  | hit => 1
  | filtered => 2
  | continuity => 3

def ofCode (octet : UInt8) : Except Error RelayAction :=
  match octet.toNat with
  | 1 => .ok hit
  | 2 => .ok filtered
  | 3 => .ok continuity
  | _ => .error (.malformed (.unknownRelayAction octet))

end RelayAction

namespace Linktrace

/-- The fields of a linktrace message. -/
structure Request where
  level : UInt8
  id : UInt32
  ttl : UInt8
  origin : MacAddress
  target : MacAddress
  deriving DecidableEq

/-- What a linktrace reply says. -/
structure Reply where
  ttl : UInt8
  hit : Bool
  deriving DecidableEq

/-- The number of hops of a message that was not told otherwise. -/
def defaultTtl : UInt8 := 64

/-- The flag of a message that is forwarded by the filtering database only. -/
def filteringOnlyFlag : UInt8 := 0x80

/-- The flag of a reply by the end point itself. -/
def terminalFlag : UInt8 := 0x20

/-- Everything that a linktrace message has behind its Ethernet header. -/
def requestBody (level : UInt8) (own target : MacAddress) (id : UInt32) (ttl : UInt8) :
    Frame.Edit Unit := do
  Frame.addHeader level filteringOnlyFlag Opcode.ltm.firstTlvOffset .ltm 0
  Frame.put32 id
  Frame.put8 ttl
  Frame.put own.octets
  Frame.put target.octets
  Frame.addEndTlv

def buildRequest (config : Config) (own target : MacAddress) (id : UInt32) (ttl : UInt8) :
    Except Error Frame := do
  let tag ← config.tag
  (Frame.start (MacAddress.linktraceGroup config.level) own tag).edited
    (requestBody config.level own target id ttl)

def parseRequest (f : Frame) : Except Error Request := do
  if !f.isCfm then throw (.mismatch .notCfm)
  let header ← f.header
  if header.opcode ≠ Opcode.ltm.code then throw (.mismatch .notLtm)
  let payload ← f.payload
  if h : 17 ≤ payload.length then
    return {
      level := header.level
      id := Octets.read32 payload 0 (by omega)
      ttl := payload[4]
      origin := MacAddress.readAt payload 5 (by omega)
      target := MacAddress.readAt payload 11 (by omega) }
  else throw (.malformed .truncatedLtm)

def decrement (ttl : UInt8) : UInt8 := if ttl = 0 then 0 else ttl - 1

/-- Everything that a linktrace reply has behind its Ethernet header. -/
def replyBody (r : Request) (action : RelayAction) : Frame.Edit Unit := do
  Frame.addHeader r.level terminalFlag Opcode.ltr.firstTlvOffset .ltr 0
  Frame.put32 r.id
  Frame.put8 (decrement r.ttl)
  Frame.put8 action.code
  Frame.addEndTlv

/-- The reply of an end point to a linktrace message. -/
def buildReply (r : Request) (own : MacAddress) (tag : Option VlanTag) (action : RelayAction) :
    Except Error Frame :=
  (Frame.start r.origin own tag).edited (replyBody r action)

/-- Checks that a frame is a reply to the linktrace message `id`, addressed to the station. The
VLAN and the level of the reply play no part. -/
def matchReply (f : Frame) (own : MacAddress) (id : UInt32) : Except Error Reply := do
  if !f.isCfm then throw (.mismatch .notCfm)
  let destination ← f.destination
  if destination ≠ own then throw (.mismatch (.ltrAddressee destination own))
  let header ← f.header
  if header.opcode ≠ Opcode.ltr.code then throw (.mismatch .notLtr)
  let payload ← f.payload
  if h : 6 ≤ payload.length then
    let received := Octets.read32 payload 0 (by omega)
    if received ≠ id then throw (.mismatch (.linktraceId received id))
    return ⟨payload[4], payload[5] == RelayAction.hit.code⟩
  else throw (.malformed .truncatedLtr)

end Linktrace
end RingContinuity
