import RingContinuity.Config
import RingContinuity.Frame.Fields
import RingContinuity.Maid

/-!
# Continuity checks

The message that a station sends at every interval: a sequence number, its end point id, the names
of its maintenance association, sixteen reserved octets and the status records.
-/

namespace RingContinuity

/-- The fields of a received continuity check. -/
structure Ccm where
  source : MacAddress
  level : UInt8
  flags : UInt8
  sequence : UInt32
  mepId : UInt16
  maid : Maid
  portStatus : Option UInt8
  interfaceStatus : Option UInt8
  deriving DecidableEq

namespace Ccm

def fixedLength : Nat := 70

def reservedLength : Nat := 16

/-- The interval at which the sender says that it sends. -/
def interval? (c : Ccm) : Option CcmInterval := CcmInterval.ofCode? c.flags

/-- The remote defect indication, the highest bit of the flags. -/
def remoteDefect (c : Ccm) : Bool := c.flags &&& 0x80 != 0

/-- Everything that a continuity check has behind its Ethernet header. The sequence number is zero;
it is stamped when the frame is sent. An empty chassis id makes up the sender record. -/
def body (config : Config) (mepId : UInt16) : Frame.Edit Unit := do
  Frame.addHeader config.level config.interval.code Opcode.ccm.firstTlvOffset .ccm 0
  Frame.put32 0
  Frame.put16 mepId
  Frame.put (Maid.ofNames config.domainName config.associationName).encode
  Frame.put (List.replicate reservedLength 0)
  Frame.addTlv Tlv.senderIdType [0]
  Frame.addTlv Tlv.portStatusType [PortStatus.up.code]
  Frame.addTlv Tlv.interfaceStatusType [InterfaceStatus.up.code]
  Frame.addEndTlv

def build (config : Config) (own : MacAddress) : Except Error Frame := do
  let mepId ← match config.mepId with
    | some id => .ok id
    | none => .error (.config .mepIdRequired)
  let tag ← config.tag
  (Frame.start (MacAddress.cfmGroup config.level) own tag).edited (body config mepId)

/-- Reads a continuity check; whom it is for plays no part here. -/
def parse (f : Frame) : Except Error Ccm := do
  if !f.isCfm then throw (.mismatch .notCfm)
  let header ← f.header
  if header.opcode ≠ Opcode.ccm.code then throw (.mismatch (.notCcm header.opcode))
  let payload ← f.payload
  if h : fixedLength ≤ payload.length then
    have : 70 ≤ payload.length := h
    let mepId := Octets.read16 payload 4 (by omega)
    if mepId = 0 ∨ maxMepId < mepId then throw (.malformed (.mepIdRange mepId))
    let maid ← Maid.decode (Octets.slice payload 6 48 (by omega))
    let tlvs ← Tlv.readAll (← f.tlvOctets)
    return {
      source := ← f.source
      level := header.level
      flags := header.flags
      sequence := Octets.read32 payload 0 (by omega)
      mepId
      maid
      portStatus := Tlv.lastStatus? Tlv.portStatusType tlvs
      interfaceStatus := Tlv.lastStatus? Tlv.interfaceStatusType tlvs }
  else throw (.malformed .truncatedCcm)

/-- The continuity check in a frame, if the station listens to its sender: they share the VLAN and
differ in their end point ids. -/
def receive (f : Frame) (config : Config) : Except Error Ccm := do
  if f.vlanId ≠ config.vlan then throw (.mismatch (.vlan f.vlanId config.vlan))
  let ccm ← parse f
  if some ccm.mepId = config.mepId then throw (.mismatch (.ownMepId ccm.mepId))
  return ccm

end Ccm
end RingContinuity
