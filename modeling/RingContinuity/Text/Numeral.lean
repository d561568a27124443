/-!
# Numerals

Digits and unsigned numerals in a base, read from and written to lists of characters. A numeral is
a nonempty run of digits; a leading plus sign is allowed where `readSigned?` says so.
-/

namespace RingContinuity.Numeral

def decimalDigit? (c : Char) : Option Nat :=
  if '0' ≤ c ∧ c ≤ '9' then some (c.toNat - '0'.toNat) else none

def hexDigit? (c : Char) : Option Nat :=
  if '0' ≤ c ∧ c ≤ '9' then some (c.toNat - '0'.toNat)
  else if 'a' ≤ c ∧ c ≤ 'f' then some (c.toNat - 'a'.toNat + 10)
  else if 'A' ≤ c ∧ c ≤ 'F' then some (c.toNat - 'A'.toNat + 10)
  else none

/-- The number denoted by `cs` after the digits of `n`. -/
def extend? (digit? : Char → Option Nat) (base n : Nat) : List Char → Option Nat
  | [] => some n
  | c :: cs => (digit? c).bind fun d => extend? digit? base (base * n + d) cs

def digits? (digit? : Char → Option Nat) (base : Nat) : List Char → Option Nat
  | [] => none
  | c :: cs => extend? digit? base 0 (c :: cs)

/-- The number denoted by a run of digits behind an optional plus sign. -/
def unsigned? (digit? : Char → Option Nat) (base : Nat) : List Char → Option Nat
  | '+' :: cs => digits? digit? base cs
  | cs => digits? digit? base cs

def decimal? : List Char → Option Nat := unsigned? decimalDigit? 10

def hex? : List Char → Option Nat := unsigned? hexDigit? 16

def hexDigit (n : Nat) : Char := Nat.digitChar (n % 16)

def hexOctet (b : UInt8) : List Char := [hexDigit (b.toNat / 16), hexDigit b.toNat]

/-- The digits of `n` in a base, filled with zeros on the left to at least `width`. -/
def padded (base width n : Nat) : List Char :=
  let ds := Nat.toDigits base n
  List.replicate (width - ds.length) '0' ++ ds

end RingContinuity.Numeral
