import RingContinuity.Json.Number

/-!
# Skipping values

A value that nothing asks for is passed over without being built, whatever it holds and however
deeply it is nested. An automaton takes one character at a time and remembers the open brackets.
It is a little more lenient than the readers: it neither pairs surrogates nor minds the size of a
number.
-/

namespace RingContinuity.Json

/-- An open bracket. -/
inductive Bracket
  | list | object
  deriving DecidableEq

/-- What the automaton expects next. -/
inductive Expected
  | value
  /-- A value, or the end of an empty list. -/
  | firstElement
  /-- A key, or the end of an empty object. -/
  | firstKey
  | key
  | colon
  /-- A comma or a closing bracket. Without an open bracket the value is complete. -/
  | separator
  | word (next : Char) (rest : List Char)
  /-- The rest of a string, which is a key or a value. -/
  | string (isKey : Bool)
  | escape (isKey : Bool)
  | whole
  | afterZero
  | afterWhole
  | fraction
  | afterFraction
  | exponentSign
  | exponent
  | afterExponent
  deriving DecidableEq

/-- What the automaton does with a character. -/
inductive Move
  | take (next : Expected) (brackets : List Bracket)
  | complete
  | fault (cause : Fault)

namespace Expected

def afterString (isKey : Bool) : Expected := if isKey then colon else separator

def start (brackets : List Bracket) (c : Char) : Move :=
  if c = 'n' then .take (word 'u' ['l', 'l']) brackets
  else if c = 't' then .take (word 'r' ['u', 'e']) brackets
  else if c = 'f' then .take (word 'a' ['l', 's', 'e']) brackets
  else if c = '"' then .take (string false) brackets
  else if c = '[' then .take firstElement (.list :: brackets)
  else if c = '{' then .take firstKey (.object :: brackets)
  else if c = '-' then .take whole brackets
  else if c = '0' then .take afterZero brackets
  else if isDigit c then .take afterWhole brackets
  else .fault .malformed

def behind (brackets : List Bracket) (c : Char) : Move :=
  match brackets with
  | [] => .complete
  | .list :: outer =>
    if isBlank c then .take separator brackets
    else if c = ',' then .take value brackets
    else if c = ']' then .take separator outer
    else .fault .malformed
  | .object :: outer =>
    if isBlank c then .take separator brackets
    else if c = ',' then .take key brackets
    else if c = '}' then .take separator outer
    else .fault .malformed

/-- The start of an exponent, or what comes behind a number. -/
def exponentOr (brackets : List Bracket) (c : Char) : Move :=
  if c = 'e' ∨ c = 'E' then .take exponentSign brackets else behind brackets c

/-- The start of a fraction or of an exponent, or what comes behind a number. -/
def fractionOr (brackets : List Bracket) (c : Char) : Move :=
  if c = '.' then .take fraction brackets else exponentOr brackets c

/-- What the automaton does with a character and the text behind it. -/
def move (e : Expected) (brackets : List Bracket) (c : Char) (s : List Char) : Move :=
  match e with
  | value => if isBlank c then .take value brackets else start brackets c
  | firstElement =>
    if isBlank c then .take firstElement brackets
    else if c = ']' then .take separator brackets.tail
    else start brackets c
  | firstKey =>
    if isBlank c then .take firstKey brackets
    else if c = '}' then .take separator brackets.tail
    else if c = '"' then .take (string true) brackets
    else .fault .malformed
  | key =>
    if isBlank c then .take key brackets
    else if c = '"' then .take (string true) brackets
    else .fault .malformed
  | colon =>
    if isBlank c then .take colon brackets
    else if c = ':' then .take value brackets
    else .fault .malformed
  | separator => behind brackets c
  | word next rest =>
    if c ≠ next then .fault .malformed
    else match rest with
      | [] => .take separator brackets
      | d :: rest => .take (word d rest) brackets
  | string isKey =>
    if c = '"' then .take (afterString isKey) brackets
    else if c = '\\' then .take (escape isKey) brackets
    else if isControl c then .fault .malformed
    else .take (string isKey) brackets
  | escape isKey =>
    if c = 'u' then
      match codeUnit s with
      | .ok _ => .take (string isKey) brackets
      | .error cause => .fault cause
    else if (shortEscape? c).isSome then .take (string isKey) brackets
    else .fault .malformed
  | whole =>
    if c = '0' then .take afterZero brackets
    else if isDigit c then .take afterWhole brackets
    else .fault .malformed
  | afterZero => if isDigit c then .fault .malformed else fractionOr brackets c
  | afterWhole => if isDigit c then .take afterWhole brackets else fractionOr brackets c
  | fraction => if isDigit c then .take afterFraction brackets else .fault .malformed
  | afterFraction => if isDigit c then .take afterFraction brackets else exponentOr brackets c
  | exponentSign =>
    if c = '+' ∨ c = '-' then .take exponent brackets
    else if isDigit c then .take afterExponent brackets
    else .fault .malformed
  | exponent => if isDigit c then .take afterExponent brackets else .fault .malformed
  | afterExponent => if isDigit c then .take afterExponent brackets else behind brackets c

/-- The fault of a text that ends here. A number that lacks digits is malformed even at the end. -/
def atEnd? (e : Expected) (brackets : List Bracket) : Option Fault :=
  match e with
  | whole | fraction | exponentSign | exponent => some .malformed
  | separator | afterZero | afterWhole | afterFraction | afterExponent =>
    if brackets = [] then none else some .truncated
  | _ => some .truncated

def pass (e : Expected) (brackets : List Bracket) : Reader Unit
  | [] => match e.atEnd? brackets with
    | none => .ok ((), [])
    | some cause => .error cause
  | c :: s => match e.move brackets c s with
    | .take e brackets => pass e brackets s
    | .complete => .ok ((), c :: s)
    | .fault cause => .error cause

theorem forward_pass (e : Expected) (brackets : List Bracket) : Forward (pass e brackets) := by
  intro s v r h
  induction s generalizing e brackets with
  | nil =>
    simp only [pass] at h
    split at h
    · cases h; exact Nat.le_refl _
    · cases h
  | cons c s ih =>
    simp only [pass] at h
    split at h
    · exact Nat.le_succ_of_le (ih _ _ h)
    · cases h; exact Nat.le_refl _
    · cases h

end Expected

def skipValue : Reader Unit := Expected.value.pass []

theorem forward_skipValue : Forward skipValue := Expected.forward_pass _ _

end RingContinuity.Json
