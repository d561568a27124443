import RingContinuity.Error

/-!
# Opcodes and group addresses

The kinds of continuity and ring protection frames, and the group addresses that they are sent to.
-/

namespace RingContinuity

/-- The kind of a frame: continuity check, loopback reply and message, linktrace reply and message,
ring automatic protection switching. -/
inductive Opcode
  | ccm | lbr | lbm | ltr | ltm | raps
  deriving DecidableEq

namespace Opcode

def code : Opcode → UInt8
  | ccm => 1
  | lbr => 2
  | lbm => 3
  | ltr => 4
  | ltm => 5
  | raps => 40

def ofCode (octet : UInt8) : Except Error Opcode :=
  match octet.toNat with
  | 1 => .ok ccm
  | 2 => .ok lbr
  | 3 => .ok lbm
  | 4 => .ok ltr
  | 5 => .ok ltm
  | 40 => .ok raps
  | _ => .error (.malformed (.unknownOpcode octet))

/-- Where the TLVs of a frame of this kind start, counted from the end of the common header. -/
def firstTlvOffset : Opcode → UInt8
  | ccm => 70
  | lbr => 4
  | lbm => 4
  | ltr => 6
  | ltm => 17
  | raps => 32

theorem ofCode_code (k : Opcode) : ofCode k.code = .ok k := by cases k <;> rfl

end Opcode

namespace MacAddress

/-- The group address of continuity checks at a level, `01:80:c2:00:00:3x`. -/
def cfmGroup (level : UInt8) : MacAddress :=
  ⟨0x01, 0x80, 0xC2, 0x00, 0x00, 0x30 ||| (level &&& 0x0F)⟩

/-- The group address of linktrace messages at a level, the upper half of `01:80:c2:00:00:3x`. -/
def linktraceGroup (level : UInt8) : MacAddress :=
  ⟨0x01, 0x80, 0xC2, 0x00, 0x00, 0x38 ||| (level &&& 0x07)⟩

/-- The group address of a protected ring, `01:19:a7:00:00` and the ring id. -/
def ringGroup (ringId : UInt8) : MacAddress := ⟨0x01, 0x19, 0xA7, 0x00, 0x00, ringId⟩

end MacAddress
end RingContinuity
