import RingContinuity.Json.Value
import RingContinuity.Json.Writer
import Mathlib.Data.Nat.Init
import Mathlib.Tactic.Lemma
import Mathlib.Tactic.SplitIfs

/-!
# JSON values read back

A value that is written is read back, and exactly its own text is taken off the front of the text
that it stands in. Behind a value stands a comma or the end of its object, so that no number goes on
where it ends.
-/

namespace RingContinuity.Json

/-! ### Strings -/

section Strings

variable {c : Char} {s t : List Char}

lemma string_quote (s : List Char) : string ('"' :: s) = .ok ([], s) := by
  rw [string]
  rfl

lemma string_of_plain (hq : c ≠ '"') (hb : c ≠ '\\') (hc : isControl c = false) :
    string (c :: s) = (string s).map fun (cs, r) => (c :: cs, r) := by
  rw [string, if_neg hq, if_neg hb, hc]
  rfl

lemma string_of_escaped (h : escaped t = .ok (c, s)) :
    string ('\\' :: t) = (string s).map fun (cs, r) => (c :: cs, r) := by
  rw [string, if_neg (by decide), if_pos rfl]
  split
  · next h' =>
    rw [h] at h'
    cases h'
  · next h' =>
    rw [h] at h'
    cases h'
    rfl

lemma escaped_of_short {e : Char} (hu : e ≠ 'u') (h : shortEscape? e = some c) (s : List Char) :
    escaped (e :: s) = .ok (c, s) := by
  simp only [escaped, hu, if_false, h]

/-- The four digits with which a control character is written. -/
def controlDigits (n : Nat) : List Char :=
  ['0', '0', Numeral.hexDigit (n / 16), Numeral.hexDigit n]

lemma controlDigits_eq : ∀ n < 0x20, octetCount (controlDigits n) = 4 ∧
    Numeral.digits? Numeral.hexDigit? 16 (controlDigits n) = some n := by decide

lemma escaped_of_control (hc : isControl c = true) (s : List Char) :
    escaped ('u' :: (controlDigits c.toNat ++ s)) = .ok (c, s) := by
  have hn : c.toNat < 0x20 := by simpa [isControl] using hc
  obtain ⟨hcount, hdigits⟩ := controlDigits_eq c.toNat hn
  have hunit : codeUnit (controlDigits c.toNat ++ s) = .ok (c.toNat, s) := by
    have htake : (controlDigits c.toNat ++ s).take 4 = controlDigits c.toNat := rfl
    unfold codeUnit
    rw [htake, hcount, hdigits]
    rfl
  have htrailing : isTrailing c.toNat = false := by
    simp only [isTrailing, Bool.and_eq_false_imp, decide_eq_true_eq]
    omega
  have hleading : isLeading c.toNat = false := by
    simp only [isLeading, Bool.and_eq_false_imp, decide_eq_true_eq]
    omega
  change codeUnits (controlDigits c.toNat ++ s) = _
  unfold codeUnits
  change (codeUnit (controlDigits c.toNat ++ s) >>= _) = _
  rw [hunit]
  simp only [bind, Except.bind, htrailing, hleading, Bool.false_eq_true, if_false,
    Char.ofNat_toNat]
  rfl

/-- A character is read back from what stands for it. -/
theorem string_escape (c : Char) (s : List Char) :
    string (escape c ++ s) = (string s).map fun (cs, r) => (c :: cs, r) := by
  unfold escape
  split_ifs with hq hb h8 hf hn hr ht hc
  rotate_left 7
  · exact string_of_escaped (escaped_of_control hc s)
  · exact string_of_plain hq hb (by simpa using hc)
  -- The other characters have an escape of one letter.
  all_goals
    subst c
    exact string_of_escaped (escaped_of_short (by decide) rfl s)

theorem string_escaped_text (cs s : List Char) :
    string (cs.flatMap escape ++ '"' :: s) = .ok (cs, s) := by
  induction cs with
  | nil => exact string_quote s
  | cons c cs ih =>
    rw [List.flatMap_cons, List.append_assoc, string_escape, ih]
    rfl

end Strings

/-! ### Ends -/

/-- What stands behind the value of a member: a comma or the end of the object. -/
inductive Closed : List Char → Prop
  | comma (s : List Char) : Closed (',' :: s)
  | bracket (s : List Char) : Closed ('\x7d' :: s)

/-- The reader takes exactly `text` off the front of every text that goes on behind it, and gives
`v`. -/
def Reads {α : Type} (read : Reader α) (text : List Char) (v : α) : Prop :=
  ∀ rest, Closed rest → read (text ++ rest) = .ok (v, rest)

/-! ### Numbers -/

lemma isDigit_digitChar : ∀ d < 10, isDigit (Nat.digitChar d) = true := by decide

lemma decimalDigit?_digitChar : ∀ d < 10, Numeral.decimalDigit? (Nat.digitChar d) = some d := by
  decide

lemma digitChar_ne_zero : ∀ d < 10, d ≠ 0 → Nat.digitChar d ≠ '0' := by decide

/-- A numeral of more than one digit ends in a digit behind a numeral. -/
lemma toDigits_eq_append {n : Nat} (hn : ¬ n < 10) :
    Nat.toDigits 10 n = Nat.toDigits 10 (n / 10) ++ [Nat.digitChar (n % 10)] := by
  have hd : n % 10 < 10 := Nat.mod_lt _ (by decide)
  rw [← Nat.toDigits_of_lt_base hd, Nat.toDigits_append_toDigits (by decide) (by omega) hd,
    Nat.div_add_mod]

lemma isDigit_of_mem_toDigits (n : Nat) : ∀ c ∈ Nat.toDigits 10 n, isDigit c = true := by
  induction n using Nat.strong_induction_on with
  | _ n ih =>
    by_cases hn : n < 10
    · simp [Nat.toDigits_of_lt_base hn, isDigit_digitChar n hn]
    · have hfirst := ih (n / 10) (by omega)
      have hlast := isDigit_digitChar (n % 10) (Nat.mod_lt _ (by decide))
      rw [toDigits_eq_append hn]
      intro c hc
      rcases List.mem_append.1 hc with hc | hc
      · exact hfirst c hc
      · rwa [List.mem_singleton.1 hc]

/-- The digits of a numeral denote its number. -/
theorem ofDigits_toDigits (n : Nat) :
    ofDigits ((Nat.toDigits 10 n).filterMap Numeral.decimalDigit?) = n := by
  induction n using Nat.strong_induction_on with
  | _ n ih =>
    by_cases hn : n < 10
    · simp [Nat.toDigits_of_lt_base hn, ofDigits, decimalDigit?_digitChar n hn]
    · have hfirst := ih (n / 10) (by omega)
      have hlast := decimalDigit?_digitChar (n % 10) (Nat.mod_lt _ (by decide))
      unfold ofDigits at hfirst ⊢
      rw [toDigits_eq_append hn, List.filterMap_append, List.foldl_append, hfirst]
      simp [hlast, Nat.div_add_mod]

/-- A numeral starts with a digit, and only that of zero with a zero. -/
lemma exists_toDigits_eq_cons (n : Nat) :
    ∃ c cs, Nat.toDigits 10 n = c :: cs ∧ isDigit c = true ∧ (n ≠ 0 → c ≠ '0') := by
  induction n using Nat.strong_induction_on with
  | _ n ih =>
    by_cases hn : n < 10
    · exact ⟨_, [], Nat.toDigits_of_lt_base hn, isDigit_digitChar n hn, digitChar_ne_zero n hn⟩
    · obtain ⟨c, cs, hc, hd, hne⟩ := ih (n / 10) (by omega)
      refine ⟨c, cs ++ [Nat.digitChar (n % 10)], ?_, hd, fun _ => hne (by omega)⟩
      rw [toDigits_eq_append hn, hc]
      rfl

lemma ne_of_isDigit {c d : Char} (hc : isDigit c = true) (hd : isDigit d = false) : c ≠ d := by
  rintro rfl
  simp [hc] at hd

lemma isBlank_of_isDigit {c : Char} (hc : isDigit c = true) : isBlank c = false := by
  have h : ∀ d, isDigit d = false → c ≠ d := fun _ => ne_of_isDigit hc
  simp [isBlank, h ' ' (by decide), h '\n' (by decide), h '\t' (by decide), h '\r' (by decide)]

namespace Number

lemma le_foldl (n : Nat) (ds : List Nat) : n ≤ ds.foldl (fun n d => 10 * n + d) n := by
  induction ds generalizing n with
  | nil => exact Nat.le_refl n
  | cons d ds ih => exact Nat.le_trans (by omega) (ih (10 * n + d))

/-- Digits that denote a number of 64 bits all fit the significand. -/
lemma append_eq {n : Nat} {ds : List Nat}
    (h : ds.foldl (fun n d => 10 * n + d) n < UInt64.size) :
    append n ds = (ds.foldl (fun n d => 10 * n + d) n, 0) := by
  induction ds generalizing n with
  | nil => rfl
  | cons d ds ih =>
    have hle := le_foldl (10 * n + d) ds
    unfold append
    rw [if_pos (Nat.lt_of_le_of_lt hle h)]
    exact ih h

lemma nearestDouble_le (n : Nat) : nearestDouble n ≤ 2 * n + 1 := by
  have hunit : 2 ^ (n.log2 - 52) ≤ n + 1 := by
    by_cases h0 : n = 0
    · simp [h0]
    · calc 2 ^ (n.log2 - 52) ≤ 2 ^ n.log2 := Nat.pow_le_pow_right (by decide) (Nat.sub_le _ _)
        _ ≤ n := Nat.log2_self_le h0
        _ ≤ n + 1 := Nat.le_succ n
  have hq : n / 2 ^ (n.log2 - 52) * 2 ^ (n.log2 - 52) ≤ n := Nat.div_mul_le_self n _
  have hup : (n / 2 ^ (n.log2 - 52) + 1) * 2 ^ (n.log2 - 52) ≤ 2 * n + 1 := by
    rw [Nat.succ_mul]
    omega
  unfold nearestDouble
  dsimp only
  split
  · exact hup
  · exact Nat.le_trans hq (by omega)

lemma isOutOfRange_of_lt {ds : List Nat} (h : ofDigits ds < UInt64.size) :
    isOutOfRange ⟨false, ds, none, none⟩ = false := by
  have happend : append 0 ds = (ofDigits ds, 0) := append_eq h
  have hone : nearestDouble 1 = 1 := by decide
  have hlt : nearestDouble (ofDigits ds) < overflow := by
    have hle := nearestDouble_le (ofDigits ds)
    have hoverflow : 2 * UInt64.size < overflow := by decide +kernel
    omega
  unfold isOutOfRange
  rw [happend]
  simp only [append, Option.getD_none, List.length_nil]
  simp [hone, hlt]

end Number

lemma digits_append {ds : List Char} (hd : ∀ c ∈ ds, isDigit c = true) {rest : List Char}
    (hr : Closed rest) :
    digits (ds ++ rest) = .ok (ds.filterMap Numeral.decimalDigit?, rest) := by
  have htake : rest.takeWhile isDigit = [] := by cases hr <;> rfl
  have hdrop : rest.dropWhile isDigit = rest := by cases hr <;> rfl
  unfold digits
  rw [List.takeWhile_append_of_pos hd, List.dropWhile_append_of_pos hd, htake, hdrop,
    List.append_nil]

lemma whole_toDigits (n : Nat) {rest : List Char} (hr : Closed rest) :
    whole (Nat.toDigits 10 n ++ rest) =
      .ok ((Nat.toDigits 10 n).filterMap Numeral.decimalDigit?, rest) := by
  have hdigits := digits_append (isDigit_of_mem_toDigits n) hr
  by_cases h0 : n = 0
  · subst h0
    cases hr <;> rfl
  · obtain ⟨c, cs, hc, hd, hne⟩ := exists_toDigits_eq_cons n
    rw [hc] at hdigits ⊢
    have hopt : optional '0' (c :: cs ++ rest) = .ok (false, c :: cs ++ rest) :=
      if_neg (hne h0)
    unfold whole
    change (optional '0' (c :: cs ++ rest) >>= _) = _
    rw [hopt]
    change someDigits (c :: cs ++ rest) = _
    rw [← hdigits]
    exact if_pos hd

lemma number_toDigits {n : Nat} (hn : n < UInt64.size) {rest : List Char} (hr : Closed rest) :
    number (Nat.toDigits 10 n ++ rest) =
      .ok (⟨false, (Nat.toDigits 10 n).filterMap Numeral.decimalDigit?, none, none⟩, rest) := by
  have hsign : optional '-' (Nat.toDigits 10 n ++ rest) =
      .ok (false, Nat.toDigits 10 n ++ rest) := by
    obtain ⟨c, cs, hc, hd, -⟩ := exists_toDigits_eq_cons n
    rw [hc]
    exact if_neg (ne_of_isDigit hd (by decide))
  have hfraction : fraction rest = .ok (none, rest) := by cases hr <;> rfl
  have hexponent : exponent rest = .ok (none, rest) := by cases hr <;> rfl
  have hrange := Number.isOutOfRange_of_lt (by rwa [ofDigits_toDigits n])
  unfold number
  simp only [bind, StateT.bind, Except.bind, hsign, whole_toDigits n hr, hfraction, hexponent]
  rw [hrange]
  rfl

/-! ### Values -/

section Values

variable {α β : Type} {read : Reader α} {text : List Char} {v : α}

/-- A value that starts like this is neither behind blanks nor `null`. -/
def Solid (text : List Char) : Prop :=
  ∃ c cs, text = c :: cs ∧ isBlank c = false ∧ c ≠ 'n'

lemma Solid.skipBlanks (h : Solid text) (rest : List Char) :
    skipBlanks (text ++ rest) = text ++ rest := by
  obtain ⟨c, cs, rfl, hb, -⟩ := h
  simp [Json.skipBlanks, hb]

lemma solid_writeText (cs : List Char) : Solid (writeText cs) :=
  ⟨'"', cs.flatMap escape ++ ['"'], rfl, by decide, by decide⟩

lemma solid_writeNatural (n : Nat) : Solid (writeNatural n) := by
  obtain ⟨c, cs, hc, hd, -⟩ := exists_toDigits_eq_cons n
  exact ⟨c, cs, hc, isBlank_of_isDigit hd, ne_of_isDigit hd (by decide)⟩

lemma Reads.map (h : Reads read text v) (f : α → β) : Reads (f <$> read) text (f v) := by
  intro rest hr
  simp only [Functor.map, StateT.map, bind, Except.bind, h rest hr]
  rfl

lemma Reads.refine (h : Reads read text v) {f : α → Except Error β} {b : β} (hf : f v = .ok b) :
    Reads (refine read f) text b := by
  intro rest hr
  unfold Json.refine
  simp only [bind, StateT.bind, Except.bind, h rest hr, hf]
  rfl

lemma Reads.nullable (h : Reads read text v) (hs : Solid text) :
    Reads (nullable read) text (some v) := by
  intro rest hr
  have hmap := h.map some rest hr
  unfold Json.nullable
  rw [hs.skipBlanks rest]
  obtain ⟨c, cs, rfl, -, hn⟩ := hs
  split
  · next heq => exact absurd (List.cons.inj heq).1 hn
  · exact hmap

lemma reads_null (read : Reader α) : Reads (nullable read) ['n', 'u', 'l', 'l'] none :=
  fun _ _ => rfl

end Values

lemma reads_writeText (cs : List Char) : Reads textValue (writeText cs) (String.ofList cs) := by
  intro rest _
  have hstring : string (cs.flatMap escape ++ ['"'] ++ rest) = .ok (cs, rest) := by
    rw [List.append_assoc]
    exact string_escaped_text cs rest
  unfold textValue dispatch
  rw [(solid_writeText cs).skipBlanks rest]
  change (String.ofList <$> string : Reader String) (cs.flatMap escape ++ ['"'] ++ rest) = _
  simp only [Functor.map, StateT.map, bind, Except.bind, hstring]
  rfl

lemma reads_writeBool (b : Bool) : Reads boolValue (writeBool b) b := by
  intro rest _
  cases b <;> rfl

lemma reads_writeNatural {n limit : Nat} (hn : n < limit) (hl : limit ≤ UInt64.size) :
    Reads (naturalValue limit) (writeNatural n) n := by
  intro rest hr
  have hnumber := number_toDigits (Nat.lt_of_lt_of_le hn hl) hr
  have hnatural : Number.natural? ⟨false, (Nat.toDigits 10 n).filterMap Numeral.decimalDigit?,
      none, none⟩ = some n := by
    simp [Number.natural?, ofDigits_toDigits]
  unfold naturalValue
  rw [(solid_writeNatural n).skipBlanks rest]
  unfold writeNatural
  rw [hnumber]
  dsimp only
  rw [hnatural]
  exact if_pos hn

end RingContinuity.Json
