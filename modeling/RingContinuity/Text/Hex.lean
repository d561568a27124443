import RingContinuity.Octets
import RingContinuity.Text.Numeral

/-!
# Octets in hexadecimal

Octet strings as two digits per octet, and the dump that shows them in lines.
-/

namespace RingContinuity.Octets

def hex (xs : Octets) : List Char := xs.flatMap Numeral.hexOctet

/-- The octets that pairs of hexadecimal digits of either case denote. -/
def ofHex? : List Char → Option Octets
  | [] => some []
  | [_] => none
  | a :: b :: cs => do
    let hi ← Numeral.hexDigit? a
    let lo ← Numeral.hexDigit? b
    return UInt8.ofNat (16 * hi + lo) :: (← ofHex? cs)

/-- The number of octets in a line of a dump. -/
def dumpWidth : Nat := 16

/-- One line of a dump: the offset of the first octet and the octets. -/
def dumpLine (offset : Nat) (xs : Octets) : List Char :=
  Numeral.padded 16 4 offset ++ ':' :: xs.flatMap fun b => ' ' :: Numeral.hexOctet b

/-- The lines of a dump of the octets from `offset` on. -/
def dumpLines (offset : Nat) (xs : Octets) : List (List Char) :=
  if xs = [] then []
  else dumpLine offset (xs.take dumpWidth) ::
    dumpLines (offset + dumpWidth) (xs.drop dumpWidth)
termination_by xs.length
decreasing_by
  have := List.length_pos_iff.2 ‹_›
  simp only [List.length_drop, dumpWidth]
  omega

/-- The octets in lines of sixteen, each line headed by the offset of its first octet. -/
def dump (xs : Octets) : List Char := List.intercalate ['\n'] (dumpLines 0 xs)

end RingContinuity.Octets
