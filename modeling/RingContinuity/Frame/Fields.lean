import RingContinuity.Frame

/-!
# Reading a frame

The fields of a frame at their places. A VLAN tag moves everything behind the addresses by four
octets. Reading a field that the frame is too short for is an error that names the field.
-/

namespace RingContinuity.Frame

/-- What `read` makes of a frame of at least `n` octets. -/
def need {α : Type} (f : Frame) (n : Nat) (field : FrameField)
    (read : n ≤ f.octets.length → α) : Except Error α :=
  if h : n ≤ f.octets.length then .ok (read h)
  else .error (.malformed (.tooShort f.octets.length field))

def destination (f : Frame) : Except Error MacAddress :=
  f.need 6 .destination fun h => MacAddress.readAt f.octets 0 h

def source (f : Frame) : Except Error MacAddress :=
  f.need 12 .source fun h => MacAddress.readAt f.octets 6 h

def word16At (f : Frame) (off : Nat) : Except Error UInt16 :=
  f.need (off + 2) .word16 fun h => Octets.read16 f.octets off h

def word32At (f : Frame) (off : Nat) : Except Error UInt32 :=
  f.need (off + 4) .word32 fun h => Octets.read32 f.octets off h

def isTagged (f : Frame) : Bool := (f.word16At 12).toOption == some etherTypeVlan

def vlan? (f : Frame) : Option VlanTag :=
  if f.isTagged then (f.word16At 14).toOption.map VlanTag.ofTci else none

/-- The VLAN id of the tag, zero for an untagged frame. -/
def vlanId (f : Frame) : UInt16 := (f.vlan?.map (·.vid)).getD 0

def etherType (f : Frame) : Except Error UInt16 := f.word16At (if f.isTagged then 16 else 12)

/-- Whether the frame carries a continuity or ring protection message. -/
def isCfm (f : Frame) : Bool := f.etherType.toOption == some etherTypeCfm

def cfmOffset (f : Frame) : Nat := if f.isTagged then 18 else 14

def header (f : Frame) : Except Error CfmHeader :=
  f.need (f.cfmOffset + CfmHeader.size) .header fun h => CfmHeader.readAt f.octets f.cfmOffset h

def opcode (f : Frame) : Except Error Opcode := do
  let h ← f.header
  Opcode.ofCode h.opcode

def payloadOffset (f : Frame) : Nat := f.cfmOffset + CfmHeader.size

def payload (f : Frame) : Except Error Octets :=
  f.need f.payloadOffset .payload fun _ => f.octets.drop f.payloadOffset

/-- The transaction id or sequence number, the first word of the payload. -/
def transactionId (f : Frame) : Except Error UInt32 := f.word32At f.payloadOffset

/-- The octets from the first record on, which starts where the common header says. -/
def tlvOctets (f : Frame) : Except Error Octets := do
  let h ← f.header
  let off := f.payloadOffset + h.firstTlvOffset.toNat
  f.need off .firstTlv fun _ => f.octets.drop off

end RingContinuity.Frame
