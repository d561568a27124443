import RingContinuity.Error

/-!
# Transmission intervals

The five intervals at which continuity checks may be sent, their wire codes and the time after
which silence counts as a loss.
-/

namespace RingContinuity

/-- The interval between continuity checks. -/
inductive CcmInterval
  | ms100 | sec1 | sec10 | min1 | min10
  deriving DecidableEq

namespace CcmInterval

/-- One second is the interval of a station that was not told otherwise. -/
instance : Inhabited CcmInterval := ⟨sec1⟩

def millis : CcmInterval → Nat
  | ms100 => 100
  | sec1 => 1000
  | sec10 => 10000
  | min1 => 60000
  | min10 => 600000

/-- The three-bit code in the flags of a continuity check. -/
def code : CcmInterval → UInt8
  | ms100 => 3
  | sec1 => 4
  | sec10 => 5
  | min1 => 6
  | min10 => 7

/-- The interval of so many milliseconds, one of the five. -/
def ofMillis (n : Nat) : Except Error CcmInterval :=
  match n with
  | 100 => .ok ms100
  | 1000 => .ok sec1
  | 10000 => .ok sec10
  | 60000 => .ok min1
  | 600000 => .ok min10
  | n => .error (.config (.interval n))

/-- The interval in the low three bits of an octet. -/
def ofCode? (octet : UInt8) : Option CcmInterval :=
  match (octet &&& 0x07).toNat with
  | 3 => some ms100
  | 4 => some sec1
  | 5 => some sec10
  | 6 => some min1
  | 7 => some min10
  | _ => none

/-- A remote end point is lost after three and a half intervals without a continuity check. -/
def lossThreshold (i : CcmInterval) : Nat := i.millis * 7 / 2

theorem ofMillis_millis (i : CcmInterval) : ofMillis i.millis = .ok i := by cases i <;> rfl

theorem ofCode?_code (i : CcmInterval) : ofCode? i.code = some i := by cases i <;> rfl

end CcmInterval
end RingContinuity
