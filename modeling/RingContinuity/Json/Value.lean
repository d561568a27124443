import RingContinuity.Json.Number

/-!
# Values of a known type

Readers for the values that a configuration consists of. A value of another type is read as far as
it takes to know that it is one, so that a fault inside of it is found first; a list or an object is
not looked into.
-/

namespace RingContinuity.Json

def startsNumber (c : Char) : Bool := c = '-' || isDigit c

/-- The fault of a text whose next value has a type that is not asked for. -/
def mistyped (s : List Char) : Fault :=
  match s with
  | [] => .truncated
  | c :: r =>
    if c = 'n' then after (word ['u', 'l', 'l'] r)
    else if c = 't' then after (word ['r', 'u', 'e'] r)
    else if c = 'f' then after (word ['a', 'l', 's', 'e'] r)
    else if c = '"' then after (string r)
    else if c = '[' ∨ c = '{' then .unsuitable none
    else if startsNumber c then after (number s)
    else .malformed
where
  after {α : Type} (read : Except Fault (α × List Char)) : Fault :=
    match read with
    | .ok _ => .unsuitable none
    | .error fault => fault

/-- Continues with the first character that is not blank and the text behind it, or fails because
the next value has the wrong type. -/
def dispatch {α : Type} (choose : Char → Option (Reader α)) : Reader α := fun s =>
  match skipBlanks s with
  | [] => .error .truncated
  | c :: r => match choose c with
    | some read => read r
    | none => .error (mistyped (c :: r))

theorem forward_dispatch {α : Type} {choose : Char → Option (Reader α)}
    (h : ∀ c read, choose c = some read → Forward read) : Forward (dispatch choose) := by
  intro s v r hr
  simp only [dispatch] at hr
  split at hr
  · cases hr
  · next c t ht =>
    have := length_of_skipBlanks_eq_cons ht
    split at hr
    · next read hc =>
      have := h _ _ hc _ _ _ hr
      omega
    · cases hr

def textValue : Reader String :=
  dispatch fun c => if c = '"' then some (String.ofList <$> string) else none

theorem forward_textValue : Forward textValue := by
  refine forward_dispatch fun c read h => ?_
  split at h
  · cases h; exact forward_map forward_string
  · cases h

def boolValue : Reader Bool :=
  dispatch fun c =>
    if c = 't' then some ((fun _ => true) <$> word ['r', 'u', 'e'])
    else if c = 'f' then some ((fun _ => false) <$> word ['a', 'l', 's', 'e'])
    else none

theorem forward_boolValue : Forward boolValue := by
  refine forward_dispatch fun c read h => ?_
  split at h
  · cases h; exact forward_map (forward_word _)
  · split at h
    · cases h; exact forward_map (forward_word _)
    · cases h

def naturalValue (limit : Nat) : Reader Nat := fun s =>
  match number (skipBlanks s) with
  | .ok (n, r) => match n.natural? with
    | some n => if n < limit then .ok (n, r) else .error (.unsuitable none)
    | none => .error (.unsuitable none)
  | .error _ => .error (mistyped (skipBlanks s))

theorem forward_naturalValue (limit : Nat) : Forward (naturalValue limit) := by
  intro s v r h
  have hs := length_skipBlanks_le s
  simp only [naturalValue] at h
  split at h
  · next n t ht =>
    have := forward_number _ _ _ ht
    split at h
    · split at h
      · cases h; omega
      · cases h
    · cases h
  · cases h

def nullable {α : Type} (read : Reader α) : Reader (Option α) := fun s =>
  match skipBlanks s with
  | 'n' :: r => ((fun _ => none) <$> word ['u', 'l', 'l'] : Reader (Option α)) r
  | r => (some <$> read : Reader (Option α)) r

theorem forward_nullable {α : Type} {read : Reader α} (h : Forward read) :
    Forward (nullable read) := by
  intro s v r hr
  simp only [nullable] at hr
  split at hr
  · next t ht =>
    have := forward_map (forward_word _) _ _ _ hr
    have := length_of_skipBlanks_eq_cons ht
    omega
  · have := forward_map h _ _ _ hr
    have := length_skipBlanks_le s
    omega

/-- Turns a value into another one, unless the value is refused. -/
def refine {α β : Type} (read : Reader α) (f : α → Except Error β) : Reader β := do
  match f (← read) with
  | .ok b => pure b
  | .error cause => throw (.unsuitable (some cause))

theorem forward_refine {α β : Type} {read : Reader α} {f : α → Except Error β}
    (h : Forward read) : Forward (refine read f) := by
  refine forward_bind h fun a => ?_
  split
  · exact forward_pure _
  · exact forward_throw _

end RingContinuity.Json
