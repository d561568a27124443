import RingContinuity.Octets
import RingContinuity.Text.Numeral

/-!
# MAC addresses

The 48-bit address of a station, its octets and its written form. The texts that are read as an
address are in `RingContinuity.MacAddress.Reader`.
-/

namespace RingContinuity

/-- A 48-bit address, most significant octet first. -/
structure MacAddress where
  o0 : UInt8
  o1 : UInt8
  o2 : UInt8
  o3 : UInt8
  o4 : UInt8
  o5 : UInt8
  deriving DecidableEq

namespace MacAddress

def zero : MacAddress := ⟨0, 0, 0, 0, 0, 0⟩

instance : Inhabited MacAddress := ⟨zero⟩

/-- The six octets in wire order. -/
def octets (m : MacAddress) : Octets := [m.o0, m.o1, m.o2, m.o3, m.o4, m.o5]

/-- The address with the given octets, if there are six of them. -/
def ofOctets? : Octets → Option MacAddress
  | [a, b, c, d, e, f] => some ⟨a, b, c, d, e, f⟩
  | _ => none

def readAt (xs : Octets) (off : Nat) (h : off + 6 ≤ xs.length) : MacAddress :=
  ⟨xs[off], xs[off + 1], xs[off + 2], xs[off + 3], xs[off + 4], xs[off + 5]⟩

/-- Group addresses, broadcast among them, have the lowest bit of the first octet set. -/
def isGroup (m : MacAddress) : Bool := m.o0 &&& 0x01 != 0

/-- The continuity group addresses are `01:80:c2:00:00:30` to `01:80:c2:00:00:3f`. -/
def isCfmGroup (m : MacAddress) : Bool :=
  m.o0 == 0x01 && m.o1 == 0x80 && m.o2 == 0xC2 && m.o3 == 0x00 && m.o4 == 0x00 &&
    m.o5 &&& 0xF0 == 0x30

/-- The written form: six lower-case octets of two digits, separated by colons. -/
def text (m : MacAddress) : List Char :=
  List.intercalate [':'] (m.octets.map Numeral.hexOctet)

instance : ToString MacAddress := ⟨fun m => String.ofList m.text⟩

@[simp] theorem length_octets (m : MacAddress) : m.octets.length = 6 := rfl

@[simp] theorem ofOctets?_octets (m : MacAddress) : ofOctets? m.octets = some m := rfl

end MacAddress
end RingContinuity
