import RingContinuity.CommandLine.Setting

/-!
# Reading the command line

The words are taken from left to right. A setting whose value is a word of its own is pending until
the next setting or the end of the line, and only then its value is looked at. A word that no
setting explains is refused at once, whatever is wrong with the pending one.
-/

namespace RingContinuity.CommandLine

/-- Why a command line cannot be followed. -/
inductive Usage
  | missingRequired
  /-- A word is neither a setting nor the value of one. -/
  | unknownArgument
  | missingValue
  | badValue
  | repeated
  | needlessValue
  | help
  deriving DecidableEq

/-- Asking for help is a success, everything else is a wrong use. -/
def Usage.exitCode : Usage → Nat
  | .help => 0
  | _ => 2

/-- What was read of a command line so far. -/
structure Progress where
  arguments : Arguments := {}
  given : List Setting := []
  /-- The setting that was read last, with its value if that was read, unless it is settled. -/
  pending : Option (Setting × Option (List Char)) := none
  /-- Whether a double hyphen was read, behind which there are no settings. -/
  trailing : Bool := false

namespace Progress

def assign (p : Progress) (s : Setting) (value : List Char) : Except Usage Progress :=
  if s ∈ p.given then .error .repeated
  else match p.arguments.set? s value with
    | some arguments => .ok { p with arguments, given := s :: p.given }
    | none => .error .badValue

def settle (p : Progress) : Except Usage Progress :=
  match p.pending with
  | none => .ok p
  | some (_, none) => .error .missingValue
  | some (s, some value) => { p with pending := none }.assign s value

def raise (p : Progress) (s : Setting) : Except Usage Progress := do
  let p ← p.settle
  if s = .help then .error .help else p.assign s []

/-- Gives a setting a value that is attached to it. -/
def attach (p : Progress) (s : Setting) (value : List Char) : Except Usage Progress := do
  let p ← p.settle
  p.assign s value

def await (p : Progress) (s : Setting) : Except Usage Progress := do
  let p ← p.settle
  return { p with pending := some (s, none) }

/-- Takes a word behind two hyphens: a name, and a value if there is an equals sign. -/
def takeLong (p : Progress) (w : List Char) : Except Usage Progress :=
  match Setting.ofLong? (w.takeWhile (· ≠ '=')), w.dropWhile (· ≠ '=') with
  | none, _ => .error .unknownArgument
  | some s, '=' :: value => if s.isFlag then .error .needlessValue else p.attach s value
  | some s, _ => if s.isFlag then p.raise s else p.await s

/-- Takes letters behind one hyphen. The first letter of a setting with a value makes the rest its
value, less an equals sign in front of it. -/
def takeShort (p : Progress) : List Char → Except Usage Progress
  | [] => .ok p
  | c :: cs => match Setting.ofShort? c with
    | none => .error .unknownArgument
    | some s =>
      if s.isFlag then do
        let p ← p.raise s
        p.takeShort cs
      else match cs with
        | [] => p.await s
        | '=' :: value => p.attach s value
        | value => p.attach s value

def takeValue (p : Progress) (w : List Char) : Except Usage Progress :=
  match p.pending with
  | some (s, none) => .ok { p with pending := some (s, some w) }
  | _ => .error .unknownArgument

def take (p : Progress) (w : List Char) : Except Usage Progress :=
  if p.trailing then .error .unknownArgument
  else match w with
    | ['-', '-'] => .ok { p with trailing := true }
    | '-' :: '-' :: name => p.takeLong name
    | '-' :: c :: letters => p.takeShort (c :: letters)
    | w => p.takeValue w

def finish (p : Progress) : Except Usage Arguments := do
  let p ← p.settle
  if .interface ∈ p.given then .ok p.arguments else .error .missingRequired

end Progress

/-- The arguments that the words behind the program's name ask for. -/
def Arguments.ofWords (words : List String) : Except Usage Arguments := do
  let p ← words.foldlM (fun p w => p.take w.toList) ({} : Progress)
  p.finish

end RingContinuity.CommandLine
