import RingContinuity.Json.Text

/-!
# Writing JSON

The compact form: no blanks, and in strings only what has to be escaped is.
-/

namespace RingContinuity.Json

/-- The characters that stand for a character in a string. -/
def escape (c : Char) : List Char :=
  if c = '"' then ['\\', '"']
  else if c = '\\' then ['\\', '\\']
  else if c = '\x08' then ['\\', 'b']
  else if c = '\x0c' then ['\\', 'f']
  else if c = '\n' then ['\\', 'n']
  else if c = '\r' then ['\\', 'r']
  else if c = '\t' then ['\\', 't']
  else if isControl c then
    ['\\', 'u', '0', '0', Numeral.hexDigit (c.toNat / 16), Numeral.hexDigit c.toNat]
  else [c]

def writeText (cs : List Char) : List Char := '"' :: cs.flatMap escape ++ ['"']

def writeNatural (n : Nat) : List Char := Nat.toDigits 10 n

def writeBool (b : Bool) : List Char :=
  if b then ['t', 'r', 'u', 'e'] else ['f', 'a', 'l', 's', 'e']

def writeNullable {α : Type} (write : α → List Char) : Option α → List Char
  | some a => write a
  | none => ['n', 'u', 'l', 'l']

def writeObject (members : List (List Char × List Char)) : List Char :=
  '\x7b' :: List.intercalate [','] (members.map fun (name, value) =>
    writeText name ++ ':' :: value) ++ ['\x7d']

end RingContinuity.Json
