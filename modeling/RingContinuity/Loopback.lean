import RingContinuity.Config
import RingContinuity.Frame.Overwrite

/-!
# Loopback

A station asks another one for a sign of life with a loopback message, which the other turns into
the reply and sends back.
-/

namespace RingContinuity.Loopback

/-- Everything that a loopback message has behind its Ethernet header. -/
def body (level : UInt8) (id : UInt32) : Frame.Edit Unit := do
  Frame.addHeader level 0 Opcode.lbm.firstTlvOffset .lbm 0
  Frame.put32 id
  Frame.addTlv Tlv.senderIdType [0]
  Frame.addEndTlv

def build (config : Config) (own : MacAddress) (id : UInt32) : Except Error Frame := do
  let target ← match config.remoteMac with
    | some m => .ok m
    | none => .error (.config .targetRequired)
  let tag ← config.tag
  (Frame.start target own tag).edited (body config.level id)

/-- Turns a loopback message into the reply to it. Messages from group addresses, and those
addressed neither to the station nor to a continuity group, are refused; every check comes before
the first change. -/
def answer (own : MacAddress) : Frame.Edit Unit := do
  let f ← get
  let source ← MonadExcept.ofExcept f.source
  if source.isGroup then throw (.mismatch (.lbmFromGroup source))
  let destination ← MonadExcept.ofExcept f.destination
  if !(destination.isCfmGroup || destination = own) then
    throw (.mismatch (.lbmAddressee destination own))
  let opcode ← MonadExcept.ofExcept f.opcode
  if opcode ≠ .lbm then throw (.mismatch .notLbm)
  Frame.setDestination source
  Frame.setSource own
  Frame.setOpcode .lbr

/-- Checks that a frame is the reply to the loopback message `id`: addressed to the station, from
`peer` if one is given, and with the same id. -/
def matchReply (f : Frame) (id : UInt32) (own : MacAddress) (peer : Option MacAddress) :
    Except Error Unit := do
  if !f.isCfm then throw (.mismatch .notCfm)
  let destination ← f.destination
  if destination ≠ own then throw (.mismatch (.lbrAddressee destination own))
  if let some peer := peer then
    let source ← f.source
    if source ≠ peer then throw (.mismatch (.lbrSource source peer))
  let header ← f.header
  if header.opcode ≠ Opcode.lbr.code then throw (.mismatch .notLbr)
  let received ← f.transactionId
  if received ≠ id then throw (.mismatch (.loopbackId id received))

end RingContinuity.Loopback
