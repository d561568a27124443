import RingContinuity.Error

/-!
# JSON texts

The leaves of JSON: blanks, words and character strings, read off the front of a text. Every reader
returns what it read and the rest of the text. The text is read from left to right and the first
fault decides.
-/

namespace RingContinuity.Json

/-- Why a text cannot be read. -/
inductive Fault
  | malformed
  | truncated
  /-- The text is JSON so far, but not of the expected shape; a value that has the right type and
  is refused comes with the cause. -/
  | unsuitable (cause : Option Error)
  deriving DecidableEq

/-- A reader takes a value off the front of a text. -/
abbrev Reader (α : Type) := StateT (List Char) (Except Fault) α

/-- A reader that never leaves more text than it was given. -/
def Forward {α : Type} (read : Reader α) : Prop :=
  ∀ s v r, read s = .ok (v, r) → r.length ≤ s.length

theorem forward_pure {α : Type} (a : α) : Forward (pure a : Reader α) := by
  intro s v r h
  cases h
  exact Nat.le_refl _

theorem forward_throw {α : Type} (fault : Fault) : Forward (throw fault : Reader α) := by
  intro s v r h
  cases h

theorem forward_bind {α β : Type} {read : Reader α} {next : α → Reader β} (hr : Forward read)
    (hn : ∀ a, Forward (next a)) : Forward (read >>= next) := by
  intro s v r h
  simp only [bind, StateT.bind, Except.bind] at h
  split at h
  · cases h
  · next p hp => exact Nat.le_trans (hn _ _ _ _ h) (hr _ _ _ hp)

theorem forward_map {α β : Type} {f : α → β} {read : Reader α} (hr : Forward read) :
    Forward (f <$> read) := by
  intro s v r h
  simp only [Functor.map, StateT.map, bind, Except.bind] at h
  split at h
  · cases h
  · next p hp =>
    cases h
    exact hr _ _ _ hp

theorem forward_ite {α : Type} {p : Prop} [Decidable p] {yes no : Reader α} (hy : Forward yes)
    (hn : Forward no) : Forward (if p then yes else no) := by
  split
  · exact hy
  · exact hn

def isBlank (c : Char) : Bool := c = ' ' || c = '\n' || c = '\t' || c = '\r'

def skipBlanks (s : List Char) : List Char := s.dropWhile isBlank

theorem length_skipBlanks_le (s : List Char) : (skipBlanks s).length ≤ s.length :=
  (List.dropWhile_sublist _).length_le

theorem length_of_skipBlanks_eq_cons {s r : List Char} {c : Char} (h : skipBlanks s = c :: r) :
    r.length < s.length := by
  have := length_skipBlanks_le s
  simp only [h, List.length_cons] at this
  omega

def word : List Char → Reader Unit
  | [], s => .ok ((), s)
  | _ :: _, [] => .error .truncated
  | c :: cs, d :: s => if d = c then word cs s else .error .malformed

theorem forward_word (cs : List Char) : Forward (word cs) := by
  intro s v r h
  induction cs generalizing s with
  | nil => cases h; exact Nat.le_refl _
  | cons c cs ih =>
    match s, h with
    | [], h => cases h
    | d :: s, h =>
      simp only [word] at h
      split at h
      · exact Nat.le_succ_of_le (ih s h)
      · cases h

/-! ## Escapes -/

def shortEscape? : Char → Option Char
  | '"' => some '"'
  | '\\' => some '\\'
  | '/' => some '/'
  | 'b' => some '\x08'
  | 'f' => some '\x0c'
  | 'n' => some '\n'
  | 'r' => some '\r'
  | 't' => some '\t'
  | _ => none

/-- The number of octets that a text takes in UTF-8. -/
def octetCount (s : List Char) : Nat := s.foldl (fun n c => n + c.utf8Size) 0

/-- Reads the four hexadecimal digits of an escaped code unit. A text that has fewer than four
octets left is truncated whatever they are. -/
def codeUnit : Reader Nat := fun s =>
  if octetCount (s.take 4) < 4 then .error .truncated
  else match Numeral.digits? Numeral.hexDigit? 16 (s.take 4) with
    | some n => .ok (n, s.drop 4)
    | none => .error .malformed

theorem forward_codeUnit : Forward codeUnit := by
  intro s v r h
  simp only [codeUnit] at h
  split at h
  · cases h
  · split at h
    · cases h
      simp
    · cases h

/-- Whether a code unit is the first of a surrogate pair. -/
def isLeading (n : Nat) : Bool := 0xD800 ≤ n && n < 0xDC00

/-- Whether a code unit is the second of a surrogate pair. -/
def isTrailing (n : Nat) : Bool := 0xDC00 ≤ n && n < 0xE000

def paired (leading trailing : Nat) : Char :=
  Char.ofNat (0x10000 + (leading - 0xD800) * 0x400 + (trailing - 0xDC00))

/-- Reads a character given by one code unit or by a surrogate pair of them, behind the letter that
announces the first. -/
def codeUnits : Reader Char := do
  let n ← codeUnit
  if isTrailing n then throw .malformed
  else if isLeading n then do
    word ['\\', 'u']
    let m ← codeUnit
    if isTrailing m then pure (paired n m) else throw .malformed
  else pure (Char.ofNat n)

theorem forward_codeUnits : Forward codeUnits :=
  forward_bind forward_codeUnit fun _ =>
    forward_ite (forward_throw _) <| forward_ite
      (forward_bind (forward_word _) fun _ => forward_bind forward_codeUnit fun _ =>
        forward_ite (forward_pure _) (forward_throw _))
      (forward_pure _)

def escaped : Reader Char := fun s =>
  match s with
  | [] => .error .truncated
  | c :: s =>
    if c = 'u' then codeUnits s
    else match shortEscape? c with
      | some d => .ok (d, s)
      | none => .error .malformed

theorem forward_escaped : Forward escaped := by
  intro s v r h
  unfold escaped at h
  split at h
  · cases h
  · split at h
    · exact Nat.le_succ_of_le (forward_codeUnits _ _ _ h)
    · split at h
      · cases h
        simp
      · cases h

/-! ## Strings -/

/-- Control characters have to be escaped. -/
def isControl (c : Char) : Bool := c.toNat < 0x20

/-- Reads a string behind its opening quote. -/
def string (s : List Char) : Except Fault (List Char × List Char) :=
  match s with
  | [] => .error .truncated
  | c :: s =>
    if c = '"' then .ok ([], s)
    else if c = '\\' then
      match _h : escaped s with
      | .error fault => .error fault
      | .ok (d, r) => (string r).map fun (cs, r) => (d :: cs, r)
    else if isControl c then .error .malformed
    else (string s).map fun (cs, r) => (c :: cs, r)
termination_by s.length
decreasing_by
  · have := forward_escaped _ _ _ _h
    simp only [List.length_cons]
    omega
  · simp

theorem length_of_map_cons {read : Except Fault (List Char × List Char)} {c : Char}
    {v r : List Char} {n : Nat} (ih : ∀ v r, read = .ok (v, r) → r.length ≤ n)
    (h : (read.map fun (cs, r) => (c :: cs, r)) = .ok (v, r)) : r.length ≤ n := by
  cases read with
  | error fault => cases h
  | ok p => cases h; exact ih _ _ rfl

theorem forward_string : Forward string := by
  intro s
  fun_induction string s with
  | case1 => intro v r h; cases h
  | case2 => intro v r h; cases h; simp
  | case3 => intro v r h; cases h
  | case4 s d t ht _ ih =>
    intro v r h
    have h₁ := forward_escaped _ _ _ ht
    have h₂ := length_of_map_cons ih h
    simp only [List.length_cons]
    omega
  | case5 => intro v r h; cases h
  | case6 c s _ _ _ ih =>
    intro v r h
    exact Nat.le_succ_of_le (length_of_map_cons ih h)

end RingContinuity.Json
