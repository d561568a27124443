import RingContinuity.CfmHeader
import RingContinuity.Opcode
import RingContinuity.Tlv
import RingContinuity.VlanTag

/-!
# Frames

An Ethernet frame that carries a continuity or ring protection message: two addresses, an optional
VLAN tag, the EtherType, the common header, a payload and records. A frame never exceeds
`maxFrameLength` octets. It is built by appending; an append that would exceed the bound fails and
leaves what was there before.
-/

namespace RingContinuity

def etherTypeVlan : UInt16 := 0x8100

def etherTypeCfm : UInt16 := 0x8902

/-- The octets of one frame, and the kind of message that its builder put into it. A received frame
has no kind. -/
structure Frame where
  octets : Octets
  kind : Option Opcode
  length_le : octets.length ≤ maxFrameLength
  deriving DecidableEq

namespace Frame

/-- The octets of an Ethernet header with an optional VLAN tag. -/
def ethernetHeader (destination source : MacAddress) (tag : Option VlanTag) : Octets :=
  destination.octets ++ source.octets ++
    (match tag with
      | some t => Octets.be16 etherTypeVlan ++ Octets.be16 t.tci
      | none => []) ++ Octets.be16 etherTypeCfm

theorem length_ethernetHeader_le (destination source : MacAddress) (tag : Option VlanTag) :
    (ethernetHeader destination source tag).length ≤ 18 := by
  cases tag <;> simp [ethernetHeader]

def start (destination source : MacAddress) (tag : Option VlanTag) : Frame where
  octets := ethernetHeader destination source tag
  kind := none
  length_le := by
    have := length_ethernetHeader_le destination source tag
    simp only [maxFrameLength]
    omega

/-- A frame of received octets; nothing but their number is checked. -/
def ofOctets (xs : Octets) : Except Error Frame :=
  if h : xs.length ≤ maxFrameLength then .ok ⟨xs, none, h⟩
  else .error (.frameTooLarge xs.length maxFrameLength)

def length (f : Frame) : Nat := f.octets.length

/-- A change to a frame that may fail. What it changed before it failed stays changed. -/
abbrev Edit (α : Type) := EStateM Error Frame α

/-- The frame that an edit makes of `f`, if it succeeds. -/
def edited (f : Frame) (e : Edit Unit) : Except Error Frame :=
  match e.run f with
  | .ok _ f' => .ok f'
  | .error err _ => .error err

def put (xs : Octets) : Edit Unit := fun f =>
  if h : f.octets.length + xs.length ≤ maxFrameLength then
    .ok () { f with
      octets := f.octets ++ xs
      length_le := by simpa only [List.length_append] using h }
  else .error (.frameTooLarge (f.octets.length + xs.length) maxFrameLength) f

def put8 (n : UInt8) : Edit Unit := put [n]

def put16 (n : UInt16) : Edit Unit := put (Octets.be16 n)

def put32 (n : UInt32) : Edit Unit := put (Octets.be32 n)

def setKind (k : Opcode) : Edit Unit := fun f => .ok () { f with kind := some k }

/-- Appends the common header and records the kind. A level that does not exist becomes zero. -/
def addHeader (level flags firstTlvOffset : UInt8) (kind : Opcode) (version : UInt8) :
    Edit Unit := do
  let level := if maxLevel < level then 0 else level
  put (CfmHeader.octets ⟨level, version, kind.code, flags, firstTlvOffset⟩)
  setKind kind

/-- Appends a record: type, length and value, each on its own, so that a record that does not fit
may leave its first part behind. The end of the sequence is a lone type octet, and a value too long
for its length field is refused at once. -/
def addTlv (type : UInt8) (value : Octets) : Edit Unit :=
  if type = Tlv.endType then put8 Tlv.endType
  else if value.length < 65536 then do
    put8 type
    put16 (UInt16.ofNat value.length)
    put value
  else throw (.frameTooLarge value.length maxFrameLength)

def addEndTlv : Edit Unit := addTlv Tlv.endType []

end Frame
end RingContinuity
