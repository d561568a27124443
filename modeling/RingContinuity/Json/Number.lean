import RingContinuity.Json.Text

/-!
# JSON numbers

A number is read as its digits. Of its value two things matter: whether it is a natural number
without sign, point and exponent, and whether it lies within the range of double precision, beyond
which a number counts as malformed.
-/

namespace RingContinuity.Json

def isDigit (c : Char) : Bool := (Numeral.decimalDigit? c).isSome

def digits : Reader (List Nat) := fun s =>
  .ok ((s.takeWhile isDigit).filterMap Numeral.decimalDigit?, s.dropWhile isDigit)

theorem forward_digits : Forward digits := by
  intro s v r h
  cases h
  exact (List.dropWhile_sublist _).length_le

def someDigits : Reader (List Nat) := fun s =>
  match s with
  | [] => .error .truncated
  | c :: _ => if isDigit c then digits s else .error .malformed

theorem forward_someDigits : Forward someDigits := by
  intro s v r h
  unfold someDigits at h
  split at h
  · cases h
  · split at h
    · exact forward_digits _ _ _ h
    · cases h

/-- Reads a character if it is the next one, and tells whether it was. -/
def optional (c : Char) : Reader Bool := fun s =>
  match s with
  | [] => .ok (false, s)
  | d :: r => if d = c then .ok (true, r) else .ok (false, s)

theorem forward_optional (c : Char) : Forward (optional c) := by
  intro s v r h
  unfold optional at h
  split at h
  · cases h; exact Nat.le_refl _
  · split at h
    · cases h; simp
    · cases h; exact Nat.le_refl _

/-- The parts of a number. -/
structure Number where
  negative : Bool
  whole : List Nat
  fraction : Option (List Nat)
  exponent : Option Int
  deriving DecidableEq

/-- Reads the digits before the point; a zero is followed by no other digit. -/
def whole : Reader (List Nat) := do
  if ← optional '0' then
    let more ← digits
    if more = [] then pure [0] else throw .malformed
  else someDigits

theorem forward_whole : Forward whole :=
  forward_bind (forward_optional _) fun _ => forward_ite
    (forward_bind forward_digits fun _ => forward_ite (forward_pure _) (forward_throw _))
    forward_someDigits

def fraction : Reader (Option (List Nat)) := do
  if ← optional '.' then some <$> someDigits else pure none

theorem forward_fraction : Forward fraction :=
  forward_bind (forward_optional _) fun _ =>
    forward_ite (forward_map forward_someDigits) (forward_pure _)

def ofDigits (ds : List Nat) : Nat := ds.foldl (fun n d => 10 * n + d) 0

def signedDigits : Reader Int := do
  let negative ← optional '-'
  if negative then (fun ds => -Int.ofNat (ofDigits ds)) <$> someDigits
  else do
    let _ ← optional '+'
    (fun ds => Int.ofNat (ofDigits ds)) <$> someDigits

theorem forward_signedDigits : Forward signedDigits :=
  forward_bind (forward_optional _) fun _ => forward_ite (forward_map forward_someDigits)
    (forward_bind (forward_optional _) fun _ => forward_map forward_someDigits)

/-- Reads the letter that announces an exponent, if it is the next character. -/
def exponentLetter : Reader Bool := do
  if ← optional 'e' then pure true else optional 'E'

theorem forward_exponentLetter : Forward exponentLetter :=
  forward_bind (forward_optional _) fun _ => forward_ite (forward_pure _) (forward_optional _)

def exponent : Reader (Option Int) := do
  if ← exponentLetter then some <$> signedDigits else pure none

theorem forward_exponent : Forward exponent :=
  forward_bind forward_exponentLetter fun _ =>
    forward_ite (forward_map forward_signedDigits) (forward_pure _)

namespace Number

/-- Appends digits to a significand while it fits 64 bits, and tells how many are left. -/
def append (n : Nat) : List Nat → Nat × Nat
  | [] => (n, 0)
  | d :: ds => if 10 * n + d < UInt64.size then append (10 * n + d) ds else (n, ds.length + 1)

/-- The nearest number with a significand of 53 bits; of two nearest ones the one that ends in an
even bit. -/
def nearestDouble (n : Nat) : Nat :=
  let k := n.log2 - 52
  let unit := Nat.pow 2 k
  let q := n / unit
  let twice := 2 * (n % unit)
  if unit < twice ∨ (twice = unit ∧ q % 2 = 1) then (q + 1) * unit else q * unit

/-- The least product that is rounded to infinity: half a unit above the largest number. -/
def overflow : Nat := Nat.pow 2 1024 - Nat.pow 2 970

/-- The number is too large for double precision. The significand keeps the leading digits that fit
64 bits; it and the power of ten are rounded before they are multiplied, and so is the product. -/
def isOutOfRange (n : Number) : Bool :=
  let (leading, dropped) := append 0 n.whole
  let places := n.fraction.getD []
  let (significand, ignored) := append leading places
  let power : Int := n.exponent.getD 0 + dropped + ignored - places.length
  significand ≠ 0 && 0 ≤ power && (308 < power ||
    overflow ≤ nearestDouble significand * nearestDouble (Nat.pow 10 power.toNat))

/-- The value of a number without sign, point and exponent. -/
def natural? (n : Number) : Option Nat :=
  if n.negative = false ∧ n.fraction = none ∧ n.exponent = none then some (ofDigits n.whole)
  else none

end Number

def number : Reader Number := do
  let negative ← optional '-'
  let n := Number.mk negative (← whole) (← fraction) (← exponent)
  if n.isOutOfRange then throw .malformed else pure n

theorem forward_number : Forward number :=
  forward_bind (forward_optional _) fun _ => forward_bind forward_whole fun _ =>
    forward_bind forward_fraction fun _ => forward_bind forward_exponent fun _ =>
      forward_ite (forward_throw _) (forward_pure _)

end RingContinuity.Json
