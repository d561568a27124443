import RingContinuity.Octets

/-!
# UTF-8

The octets of a text, and texts read back from octets. `scan` cuts octets into well-formed
characters and maximal ill-formed pieces; `decodeLossy` shows each ill-formed piece as one
replacement character, and `decode?` accepts only octets without one.
-/

namespace RingContinuity.Utf8

def encode (s : String) : Octets := s.toUTF8.data.toList

/-- The range of the second octet after a leading octet, and the number of octets that follow the
leading one. These are the well-formed sequences of the Unicode standard: no overlong forms, no
surrogates, nothing above U+10FFFF. -/
def trail? (lead : UInt8) : Option (UInt8 × UInt8 × Nat) :=
  if 0xC2 ≤ lead ∧ lead ≤ 0xDF then some (0x80, 0xBF, 1)
  else if lead = 0xE0 then some (0xA0, 0xBF, 2)
  else if lead = 0xED then some (0x80, 0x9F, 2)
  else if 0xE1 ≤ lead ∧ lead ≤ 0xEF then some (0x80, 0xBF, 2)
  else if lead = 0xF0 then some (0x90, 0xBF, 3)
  else if 0xF1 ≤ lead ∧ lead ≤ 0xF3 then some (0x80, 0xBF, 3)
  else if lead = 0xF4 then some (0x80, 0x8F, 3)
  else none

/-- The number of leading octets that continue a character: the first in `lo` to `hi`, the others
any continuation octet, at most `n` of them. -/
def continuation (lo hi : UInt8) : Nat → Octets → Nat
  | 0, _ => 0
  | _ + 1, [] => 0
  | n + 1, b :: bs => if lo ≤ b ∧ b ≤ hi then continuation 0x80 0xBF n bs + 1 else 0

/-- The scalar value of a leading octet followed by continuation octets. -/
def scalar (lead : UInt8) (rest : Octets) : Nat :=
  let mask := if rest.length = 1 then 0x1F else if rest.length = 2 then 0x0F else 0x07
  rest.foldl (fun n b => 64 * n + b.toNat % 64) (lead.toNat &&& mask)

/-- The first character or ill-formed piece of a nonempty string: the character, if there is one,
and the number of octets that it takes after the leading one. -/
def step (lead : UInt8) (rest : Octets) : Option Char × Nat :=
  if lead < 0x80 then (some (Char.ofNat lead.toNat), 0)
  else match trail? lead with
    | none => (none, 0)
    | some (lo, hi, n) =>
      let k := continuation lo hi n rest
      if k = n then (some (Char.ofNat (scalar lead (rest.take n))), n) else (none, k)

/-- The characters of an octet string, with `none` for every maximal ill-formed piece. -/
def scan : Octets → List (Option Char)
  | [] => []
  | b :: bs => (step b bs).1 :: scan (bs.drop (step b bs).2)
termination_by xs => xs.length
decreasing_by simp only [List.length_drop, List.length_cons]; omega

/-- The text of an octet string, a replacement character standing for every ill-formed piece. -/
def decodeLossy (xs : Octets) : String :=
  String.ofList ((scan xs).map fun c => c.getD '\uFFFD')

/-- The text of a well-formed octet string. -/
def decode? (xs : Octets) : Option String := ((scan xs).mapM id).map String.ofList

end RingContinuity.Utf8
