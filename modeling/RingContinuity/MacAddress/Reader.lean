import RingContinuity.Error

/-!
# Texts read as MAC addresses

Three forms are read: six groups of one or two hexadecimal digits separated by colons, the same
separated by hyphens, and three groups of one to four digits separated by dots. A point anywhere
selects the dotted form and otherwise a hyphen the hyphenated one, so forms cannot be mixed. A plus
sign before the digits of a group counts towards its length and is otherwise ignored.
-/

namespace RingContinuity.MacAddress

/-- The pieces of a text between the occurrences of a separator. -/
def pieces (separator : Char) : List Char → List (List Char)
  | [] => [[]]
  | c :: cs =>
    if c = separator then [] :: pieces separator cs
    else match pieces separator cs with
      | [] => [[c]]
      | g :: gs => (c :: g) :: gs

/-- The number that a group of at most `width` characters denotes. -/
def group? (width : Nat) (cs : List Char) : Option Nat :=
  if cs.length ≤ width then Numeral.hex? cs else none

/-- The octet that a group of one or two characters denotes. -/
def octet? (cs : List Char) : Option UInt8 := (group? 2 cs).map UInt8.ofNat

/-- The two octets that a group of one to four characters denotes. -/
def octetPair? (cs : List Char) : Option (UInt8 × UInt8) :=
  (group? 4 cs).map fun n => (UInt8.ofNat (n / 256), UInt8.ofNat n)

def readDotted? (cs : List Char) : Option MacAddress :=
  match pieces '.' cs with
  | [a, b, c] => do
    let (a0, a1) ← octetPair? a
    let (b0, b1) ← octetPair? b
    let (c0, c1) ← octetPair? c
    return ⟨a0, a1, b0, b1, c0, c1⟩
  | _ => none

def readSeparated? (separator : Char) (cs : List Char) : Option MacAddress :=
  match pieces separator cs with
  | [a, b, c, d, e, f] => do
    return ⟨← octet? a, ← octet? b, ← octet? c, ← octet? d, ← octet? e, ← octet? f⟩
  | _ => none

def read? (cs : List Char) : Option MacAddress :=
  if '.' ∈ cs then readDotted? cs
  else if '-' ∈ cs then readSeparated? '-' cs
  else readSeparated? ':' cs

def ofText (s : String) : Except Error MacAddress :=
  match read? s.toList with
  | some m => .ok m
  | none => .error (.config (.macText s))

def ofOctets (xs : Octets) : Except Error MacAddress :=
  match ofOctets? xs with
  | some m => .ok m
  | none => .error (.malformed (.macLength xs.length))

end RingContinuity.MacAddress
