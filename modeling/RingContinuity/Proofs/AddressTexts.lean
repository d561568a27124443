import RingContinuity.MacAddress.Reader
import Mathlib.Algebra.Group.Nat.Defs
import Mathlib.Data.List.Forall2
import Mathlib.Tactic.Lemma

/-!
# The forms of an address

An address is written as six groups of one or two hexadecimal digits, separated by colons or by
hyphens, or as three groups of one to four digits, separated by dots. These forms are said here
without the reader. The reader accepts them and, beyond them, groups in which a plus sign takes the
place of the first digit.
-/

namespace RingContinuity

/-! ### Hexadecimal numerals -/

namespace Numeral

/-- The characters `0` to `9`, `a` to `f` and `A` to `F`. -/
def IsHexDigit (c : Char) : Prop :=
  ('0' ≤ c ∧ c ≤ '9') ∨ ('a' ≤ c ∧ c ≤ 'f') ∨ ('A' ≤ c ∧ c ≤ 'F')

instance : DecidablePred IsHexDigit := fun _ => inferInstanceAs (Decidable (_ ∨ _))

/-- The value of a digit is its place in the row of digits, whatever its case. -/
def digitValue (c : Char) : Nat :=
  ['0', '1', '2', '3', '4', '5', '6', '7', '8', '9', 'a', 'b', 'c', 'd', 'e', 'f'].idxOf c.toLower

/-- The number that a row of digits denotes, most significant digit first. -/
def hexValue : List Char → Nat
  | [] => 0
  | c :: cs => digitValue c * 16 ^ cs.length + hexValue cs

lemma IsHexDigit.toNat_lt {c : Char} (h : IsHexDigit c) : c.toNat < 128 := by
  rcases h with ⟨-, h⟩ | ⟨-, h⟩ | ⟨-, h⟩
  · exact Nat.lt_of_le_of_lt (show c.toNat ≤ 57 from h) (by decide)
  · exact Nat.lt_of_le_of_lt (show c.toNat ≤ 102 from h) (by decide)
  · exact Nat.lt_of_le_of_lt (show c.toNat ≤ 70 from h) (by decide)

lemma hexDigit?_of_isHexDigit {c : Char} (h : IsHexDigit c) :
    hexDigit? c = some (digitValue c) ∧ digitValue c < 16 := by
  -- There is no instance for all characters, but the digits are among the first 128.
  have hascii : ∀ n < 128, IsHexDigit (Char.ofNat n) →
      hexDigit? (Char.ofNat n) = some (digitValue (Char.ofNat n)) ∧
        digitValue (Char.ofNat n) < 16 := by
    decide
  have hc := hascii c.toNat h.toNat_lt
  rw [Char.ofNat_toNat] at hc
  exact hc h

lemma hexDigit?_eq_some_iff {c : Char} {n : Nat} :
    hexDigit? c = some n ↔ IsHexDigit c ∧ digitValue c = n := by
  by_cases h : IsHexDigit c
  · rw [(hexDigit?_of_isHexDigit h).1, Option.some_inj]
    exact ⟨fun hn => ⟨h, hn⟩, And.right⟩
  · obtain ⟨h0, h1⟩ := not_or.1 h
    obtain ⟨h1, h2⟩ := not_or.1 h1
    unfold hexDigit?
    rw [if_neg h0, if_neg h1, if_neg h2]
    exact ⟨nofun, fun hc => absurd hc.1 h⟩

lemma hexValue_lt {cs : List Char} (h : ∀ c ∈ cs, IsHexDigit c) :
    hexValue cs < 16 ^ cs.length := by
  induction cs with
  | nil => decide
  | cons c cs ih =>
    have hc := (hexDigit?_of_isHexDigit (h c List.mem_cons_self)).2
    have hcs := ih fun d hd => h d (List.mem_cons_of_mem _ hd)
    calc hexValue (c :: cs) < digitValue c * 16 ^ cs.length + 16 ^ cs.length :=
          Nat.add_lt_add_left hcs _
      _ = (digitValue c + 1) * 16 ^ cs.length := (Nat.succ_mul _ _).symm
      _ ≤ 16 * 16 ^ cs.length := Nat.mul_le_mul_right _ hc
      _ = 16 ^ (c :: cs).length := (Nat.pow_succ').symm

lemma extend?_eq_some_iff {cs : List Char} {n v : Nat} : extend? hexDigit? 16 n cs = some v ↔
    (∀ c ∈ cs, IsHexDigit c) ∧ n * 16 ^ cs.length + hexValue cs = v := by
  induction cs generalizing n with
  | nil => simp [extend?, hexValue]
  | cons c cs ih =>
    have hval : ∀ d, (16 * n + d) * 16 ^ cs.length + hexValue cs =
        n * 16 ^ (cs.length + 1) + (d * 16 ^ cs.length + hexValue cs) := by
      intro d
      rw [Nat.pow_succ', Nat.add_mul, Nat.mul_comm 16 n, Nat.mul_assoc, Nat.add_assoc]
    simp only [extend?, Option.bind_eq_some_iff, hexDigit?_eq_some_iff, ih, hexValue,
      List.forall_mem_cons, List.length_cons]
    constructor
    · rintro ⟨d, ⟨hc, rfl⟩, hcs, hv⟩
      exact ⟨⟨hc, hcs⟩, (hval _).symm.trans hv⟩
    · rintro ⟨⟨hc, hcs⟩, hv⟩
      exact ⟨_, ⟨hc, rfl⟩, hcs, (hval _).trans hv⟩

lemma digits?_eq_some_iff {cs : List Char} {v : Nat} : digits? hexDigit? 16 cs = some v ↔
    cs ≠ [] ∧ (∀ c ∈ cs, IsHexDigit c) ∧ hexValue cs = v := by
  cases cs with
  | nil => exact ⟨nofun, fun h => absurd rfl h.1⟩
  | cons c cs =>
    unfold digits?
    rw [extend?_eq_some_iff, Nat.zero_mul, Nat.zero_add]
    exact ⟨fun h => ⟨List.cons_ne_nil _ _, h⟩, And.right⟩

end Numeral

namespace MacAddress

open Numeral

/-! ### Groups -/

/-- One to `width` hexadecimal digits that denote `n`. -/
structure Group (width : Nat) (cs : List Char) (n : Nat) : Prop where
  digits : ∀ c ∈ cs, IsHexDigit c
  length : 1 ≤ cs.length ∧ cs.length ≤ width
  value : hexValue cs = n

/-- A group, or one in which a plus sign takes the place of the first digit. -/
def SignedGroup (width : Nat) (cs : List Char) (n : Nat) : Prop :=
  Group width cs n ∨ ∃ ds, cs = '+' :: ds ∧ Group (width - 1) ds n

lemma Group.plus_not_mem {width n : Nat} {cs : List Char} (h : Group width cs n) : '+' ∉ cs :=
  fun hm => absurd (h.digits _ hm) (by decide)

lemma group_iff {width n : Nat} {cs : List Char} :
    Group width cs n ↔ '+' ∉ cs ∧ SignedGroup width cs n := by
  constructor
  · intro h
    exact ⟨h.plus_not_mem, .inl h⟩
  · rintro ⟨hp, h | ⟨ds, rfl, -⟩⟩
    · exact h
    · exact absurd List.mem_cons_self hp

/-- The characters that stand between the groups of one form or another. -/
def IsSeparator (c : Char) : Prop := c = ':' ∨ c = '-' ∨ c = '.'

instance : DecidablePred IsSeparator := fun _ => inferInstanceAs (Decidable (_ ∨ _))

lemma IsSeparator.not_isHexDigit {c : Char} (hc : IsSeparator c) : ¬ IsHexDigit c := by
  rcases hc with rfl | rfl | rfl <;> decide

lemma SignedGroup.not_mem {width n : Nat} {cs : List Char} (h : SignedGroup width cs n) {c : Char}
    (hc : IsSeparator c) : c ∉ cs := by
  intro hm
  rcases h with h | ⟨ds, rfl, h⟩
  · exact hc.not_isHexDigit (h.digits c hm)
  · rcases List.mem_cons.1 hm with rfl | hm
    · exact absurd hc (by decide)
    · exact hc.not_isHexDigit (h.digits c hm)

lemma Group.lt {width n : Nat} {cs : List Char} (h : Group width cs n) : n < 16 ^ width := by
  rw [← h.value]
  exact Nat.lt_of_lt_of_le (hexValue_lt h.digits) (Nat.pow_le_pow_right (by decide) h.length.2)

lemma SignedGroup.lt {width n : Nat} {cs : List Char} (h : SignedGroup width cs n) :
    n < 16 ^ width := by
  rcases h with h | ⟨ds, rfl, h⟩
  · exact h.lt
  · exact Nat.lt_of_lt_of_le h.lt (Nat.pow_le_pow_right (by decide) (Nat.sub_le width 1))

lemma group_iff_digits? {width n : Nat} {cs : List Char} :
    Group width cs n ↔ cs.length ≤ width ∧ digits? hexDigit? 16 cs = some n := by
  rw [digits?_eq_some_iff, ← List.length_pos_iff]
  constructor
  · rintro ⟨hdigits, ⟨hpos, hl⟩, hv⟩
    exact ⟨hl, hpos, hdigits, hv⟩
  · rintro ⟨hl, hpos, hdigits, hv⟩
    exact ⟨hdigits, ⟨hpos, hl⟩, hv⟩

theorem group?_eq_some_iff {width n : Nat} {cs : List Char} :
    group? width cs = some n ↔ SignedGroup width cs n := by
  unfold group? hex? unsigned?
  constructor
  · intro h
    split at h
    · next hl =>
      split at h
      · next ds => exact .inr ⟨ds, rfl, group_iff_digits?.2 ⟨Nat.le_sub_of_add_le hl, h⟩⟩
      · exact .inl (group_iff_digits?.2 ⟨hl, h⟩)
    · exact nomatch h
  · rintro (h | ⟨ds, rfl, h⟩)
    · obtain ⟨hl, hdigits⟩ := group_iff_digits?.1 h
      rw [if_pos hl]
      split
      · exact absurd List.mem_cons_self h.plus_not_mem
      · exact hdigits
    · have hpos := h.length
      obtain ⟨hl, hdigits⟩ := group_iff_digits?.1 h
      rw [if_pos (by rw [List.length_cons]; omega)]
      exact hdigits

lemma octet?_eq_some_iff {cs : List Char} {o : UInt8} :
    octet? cs = some o ↔ SignedGroup 2 cs o.toNat := by
  unfold octet?
  simp only [Option.map_eq_some_iff, group?_eq_some_iff]
  constructor
  · rintro ⟨n, h, rfl⟩
    rwa [UInt8.toNat_ofNat_of_lt' h.lt]
  · intro h
    exact ⟨_, h, UInt8.ofNat_toNat⟩

lemma toNat_pair {n : Nat} (h : n < 65536) :
    256 * (UInt8.ofNat (n / 256)).toNat + (UInt8.ofNat n).toNat = n := by
  have hhi : (UInt8.ofNat (n / 256)).toNat = n / 256 :=
    UInt8.toNat_ofNat_of_lt' (by change n / 256 < 256; omega)
  rw [hhi, UInt8.toNat_ofNat']
  omega

lemma octetPair?_eq_some_iff {cs : List Char} {hi lo : UInt8} :
    octetPair? cs = some (hi, lo) ↔ SignedGroup 4 cs (256 * hi.toNat + lo.toNat) := by
  unfold octetPair?
  simp only [Option.map_eq_some_iff, group?_eq_some_iff, Prod.mk.injEq]
  constructor
  · rintro ⟨n, h, rfl, rfl⟩
    rwa [toNat_pair h.lt]
  · intro h
    have hlo := lo.toNat_lt
    refine ⟨_, h, ?_, ?_⟩
    · have hdiv : (256 * hi.toNat + lo.toNat) / 256 = hi.toNat := by omega
      rw [hdiv, UInt8.ofNat_toNat]
    · apply UInt8.toNat_inj.1
      rw [UInt8.toNat_ofNat']
      omega

/-! ### Pieces -/

lemma pieces_eq_splitOn (separator : Char) (cs : List Char) :
    pieces separator cs = cs.splitOn separator := by
  induction cs with
  | nil => rfl
  | cons c cs ih =>
    unfold pieces
    rw [List.splitOn_cons_eq_if_modifyHead, ih]
    by_cases hc : c = separator
    · rw [if_pos hc, if_pos (beq_iff_eq.2 hc)]
    · rw [if_neg hc, if_neg fun h => hc (beq_iff_eq.1 h)]
      cases hgs : cs.splitOn separator with
      | nil => exact absurd hgs (List.splitOn_ne_nil separator cs)
      | cons g gs => rfl

/-- The pieces of a text are the only groups that give it with the separator between them. -/
lemma forall₂_pieces_iff {separator : Char} (hs : IsSeparator separator) {width : Nat}
    {cs : List Char} {ns : List Nat} (hl : 2 ≤ ns.length) :
    List.Forall₂ (SignedGroup width) (pieces separator cs) ns ↔ ∃ groups,
      cs = List.intercalate [separator] groups ∧ List.Forall₂ (SignedGroup width) groups ns := by
  rw [pieces_eq_splitOn]
  constructor
  · intro h
    exact ⟨_, (List.intercalate_splitOn separator).symm, h⟩
  · rintro ⟨groups, rfl, h⟩
    have hgroups : ∀ g ∈ groups, separator ∉ g :=
      ((List.forall₂_and_left _ _).1 (h.imp fun g n hg => ⟨hg.not_mem hs, hg⟩)).1
    have hnil : groups ≠ [] := by
      rintro rfl
      rw [← h.length_eq] at hl
      exact nomatch hl
    rwa [List.splitOn_intercalate separator hgroups hnil]

/-- What stands in a text is the separator or stands in a group. -/
lemma mem_intercalate_iff {c separator : Char} {groups : List (List Char)}
    (hl : 2 ≤ groups.length) : c ∈ List.intercalate [separator] groups ↔
      c = separator ∨ ∃ g ∈ groups, c ∈ g := by
  induction groups with
  | nil => exact nomatch hl
  | cons g gs ih =>
    match gs, ih with
    | [], _ => exact absurd hl (Nat.lt_irrefl 1)
    | [h], _ =>
      rw [List.intercalate_cons_cons, List.intercalate_singleton, List.mem_append, List.mem_append,
        List.mem_singleton, List.exists_mem_cons_iff, List.exists_mem_cons_iff, or_assoc,
        or_left_comm]
      simp only [List.not_mem_nil, false_and, exists_false, or_false]
    | h :: k :: gs, ih =>
      rw [List.intercalate_cons_cons, List.mem_append, List.mem_append, List.mem_singleton,
        ih (Nat.le_add_left 2 _), List.exists_mem_cons_iff _ g, or_comm (a := c ∈ g),
        ← or_or_distrib_left]

/-- Of the separators, only the one of its own form stands in a text. -/
lemma mem_separated_iff {width : Nat} {c separator : Char} {groups : List (List Char)}
    {ns : List Nat} (hg : List.Forall₂ (SignedGroup width) groups ns) (hl : 2 ≤ ns.length)
    (hc : IsSeparator c) : c ∈ List.intercalate [separator] groups ↔ c = separator := by
  have hgroups : ∀ g ∈ groups, c ∉ g :=
    ((List.forall₂_and_left _ _).1 (hg.imp fun g n h => ⟨h.not_mem hc, h⟩)).1
  rw [mem_intercalate_iff (by rwa [hg.length_eq]), or_iff_left]
  rintro ⟨g, hgm, hcg⟩
  exact hgroups g hgm hcg

/-! ### Forms -/

/-- The numbers of the six octets, two by two and the more significant one first. -/
def octetPairs (m : MacAddress) : List Nat :=
  [256 * m.o0.toNat + m.o1.toNat, 256 * m.o2.toNat + m.o3.toNat, 256 * m.o4.toNat + m.o5.toNat]

lemma two_le_length_octets (m : MacAddress) : 2 ≤ (m.octets.map UInt8.toNat).length :=
  Nat.le_add_left 2 4

lemma two_le_length_octetPairs (m : MacAddress) : 2 ≤ m.octetPairs.length := Nat.le_add_left 2 1

/-- The texts in one of the three forms, with groups as `form` has them for a width. -/
inductive Written (form : Nat → List Char → Nat → Prop) : List Char → MacAddress → Prop
  | separated {separator : Char} {groups : List (List Char)} {m : MacAddress}
      (hs : separator = ':' ∨ separator = '-')
      (hg : List.Forall₂ (form 2) groups (m.octets.map UInt8.toNat)) :
      Written form (List.intercalate [separator] groups) m
  | dotted {groups : List (List Char)} {m : MacAddress}
      (hg : List.Forall₂ (form 4) groups m.octetPairs) :
      Written form (List.intercalate ['.'] groups) m

lemma readSeparated?_eq_some_iff {separator : Char} (hs : IsSeparator separator) {cs : List Char}
    {m : MacAddress} : readSeparated? separator cs = some m ↔ ∃ groups,
      cs = List.intercalate [separator] groups ∧
        List.Forall₂ (SignedGroup 2) groups (m.octets.map UInt8.toNat) := by
  rw [← forall₂_pieces_iff hs m.two_le_length_octets]
  unfold readSeparated? octets
  constructor
  · intro h
    split at h
    · next a b c d e f hp =>
      simp only [bind, Option.bind_eq_some_iff, pure, Option.some_inj, octet?_eq_some_iff] at h
      obtain ⟨o0, h0, o1, h1, o2, h2, o3, h3, o4, h4, o5, h5, rfl⟩ := h
      rw [hp]
      exact .cons h0 (.cons h1 (.cons h2 (.cons h3 (.cons h4 (.cons h5 .nil)))))
    · exact nomatch h
  · intro h
    match pieces separator cs, h with
    | _, .cons h0 (.cons h1 (.cons h2 (.cons h3 (.cons h4 (.cons h5 .nil))))) =>
      dsimp only
      rw [octet?_eq_some_iff.2 h0, octet?_eq_some_iff.2 h1, octet?_eq_some_iff.2 h2,
        octet?_eq_some_iff.2 h3, octet?_eq_some_iff.2 h4, octet?_eq_some_iff.2 h5]
      rfl

lemma readDotted?_eq_some_iff {cs : List Char} {m : MacAddress} :
    readDotted? cs = some m ↔ ∃ groups, cs = List.intercalate ['.'] groups ∧
      List.Forall₂ (SignedGroup 4) groups m.octetPairs := by
  rw [← forall₂_pieces_iff (by decide) m.two_le_length_octetPairs]
  unfold readDotted? octetPairs
  constructor
  · intro h
    split at h
    · next a b c hp =>
      simp only [bind, Option.bind_eq_some_iff, pure, Option.some_inj] at h
      obtain ⟨⟨a0, a1⟩, ha, ⟨b0, b1⟩, hb, ⟨c0, c1⟩, hc, rfl⟩ := h
      rw [octetPair?_eq_some_iff] at ha hb hc
      rw [hp]
      exact .cons ha (.cons hb (.cons hc .nil))
    · exact nomatch h
  · intro h
    match pieces '.' cs, h with
    | _, .cons ha (.cons hb (.cons hc .nil)) =>
      dsimp only
      rw [octetPair?_eq_some_iff.2 ha, octetPair?_eq_some_iff.2 hb, octetPair?_eq_some_iff.2 hc]
      rfl

/-- The reader accepts the three forms, with a plus sign as the first character of any group. -/
theorem read?_eq_some_iff {cs : List Char} {m : MacAddress} :
    read? cs = some m ↔ Written SignedGroup cs m := by
  unfold read?
  constructor
  · intro h
    split at h
    · obtain ⟨groups, rfl, hg⟩ := readDotted?_eq_some_iff.1 h
      exact .dotted hg
    · split at h
      · obtain ⟨groups, rfl, hg⟩ := (readSeparated?_eq_some_iff (by decide)).1 h
        exact .separated (.inr rfl) hg
      · obtain ⟨groups, rfl, hg⟩ := (readSeparated?_eq_some_iff (by decide)).1 h
        exact .separated (.inl rfl) hg
  · -- The separator that stands in the text leads to the reader of its form.
    intro h
    cases h with
    | @separated separator groups _ hs hg =>
      have hdot : '.' ∈ List.intercalate [separator] groups ↔ '.' = separator :=
        mem_separated_iff hg m.two_le_length_octets (by decide)
      have hhyphen : '-' ∈ List.intercalate [separator] groups ↔ '-' = separator :=
        mem_separated_iff hg m.two_le_length_octets (by decide)
      rcases hs with rfl | rfl
      · rw [if_neg (mt hdot.1 (by decide)), if_neg (mt hhyphen.1 (by decide))]
        exact (readSeparated?_eq_some_iff (by decide)).2 ⟨_, rfl, hg⟩
      · rw [if_neg (mt hdot.1 (by decide)), if_pos (hhyphen.2 rfl)]
        exact (readSeparated?_eq_some_iff (by decide)).2 ⟨_, rfl, hg⟩
    | dotted hg =>
      rw [if_pos ((mem_separated_iff hg m.two_le_length_octetPairs (by decide)).2 rfl)]
      exact readDotted?_eq_some_iff.2 ⟨_, rfl, hg⟩

/-- The groups of a text have no plus sign if and only if it has none. -/
lemma forall₂_group_iff {width : Nat} {separator : Char} (hs : IsSeparator separator)
    {groups : List (List Char)} {ns : List Nat} (hl : 2 ≤ ns.length) :
    List.Forall₂ (Group width) groups ns ↔ '+' ∉ List.intercalate [separator] groups ∧
      List.Forall₂ (SignedGroup width) groups ns := by
  have hplus : '+' ≠ separator := by
    rcases hs with rfl | rfl | rfl <;> decide
  constructor
  · intro h
    obtain ⟨hgroups, hg⟩ := (List.forall₂_and_left _ _).1 (h.imp fun g n => group_iff.1)
    refine ⟨?_, hg⟩
    rw [mem_intercalate_iff (by rwa [hg.length_eq])]
    rintro (he | ⟨g, hgm, hcg⟩)
    · exact hplus he
    · exact hgroups g hgm hcg
  · rintro ⟨hp, hg⟩
    rw [mem_intercalate_iff (by rwa [hg.length_eq])] at hp
    have hgroups : ∀ g ∈ groups, '+' ∉ g := fun g hgm hcg => hp (.inr ⟨g, hgm, hcg⟩)
    exact ((List.forall₂_and_left _ _).2 ⟨hgroups, hg⟩).imp fun g n => group_iff.2

theorem written_iff {cs : List Char} {m : MacAddress} :
    Written Group cs m ↔ '+' ∉ cs ∧ Written SignedGroup cs m := by
  have hdot : IsSeparator '.' := by decide
  constructor
  · intro h
    cases h with
    | separated hs hg =>
      obtain ⟨hp, hg⟩ := (forall₂_group_iff (hs.imp_right .inl) m.two_le_length_octets).1 hg
      exact ⟨hp, .separated hs hg⟩
    | dotted hg =>
      obtain ⟨hp, hg⟩ := (forall₂_group_iff hdot m.two_le_length_octetPairs).1 hg
      exact ⟨hp, .dotted hg⟩
  · rintro ⟨hp, h⟩
    cases h with
    | separated hs hg =>
      have hsep : IsSeparator _ := hs.imp_right .inl
      exact .separated hs ((forall₂_group_iff hsep m.two_le_length_octets).2 ⟨hp, hg⟩)
    | dotted hg => exact .dotted ((forall₂_group_iff hdot m.two_le_length_octetPairs).2 ⟨hp, hg⟩)

/-- A text is an address exactly if it is in one of the three forms, where a plus sign may take the
place of the first digit of any group. The address is the one that is written, and every other text
is refused with itself in the message. The texts with digits only are those without a plus sign. -/
theorem ofText_iff_written (s : String) :
    (∀ m, ofText s = .ok m ↔ Written SignedGroup s.toList m) ∧
    (∀ cause, ofText s = .error cause ↔
      cause = .config (.macText s) ∧ ∀ m, ¬ Written SignedGroup s.toList m) ∧
    ∀ m, Written Group s.toList m ↔ '+' ∉ s.toList ∧ ofText s = .ok m := by
  have hok : ∀ m, ofText s = .ok m ↔ Written SignedGroup s.toList m := by
    intro m
    rw [← read?_eq_some_iff]
    unfold ofText
    cases read? s.toList with
    | none => exact ⟨nofun, nofun⟩
    | some m' =>
      rw [Option.some_inj]
      exact ⟨Except.ok.inj, congrArg _⟩
  refine ⟨hok, fun cause => ?_, fun m => ?_⟩
  · simp only [← read?_eq_some_iff]
    unfold ofText
    cases read? s.toList with
    | none => exact ⟨fun h => ⟨(Except.error.inj h).symm, nofun⟩, fun h => congrArg _ h.1.symm⟩
    | some m' => exact ⟨nofun, fun h => absurd rfl (h.2 m')⟩
  · rw [hok, written_iff]

/-- A text with a plus sign is an address without being in any of the three forms. -/
theorem plus_sign_read : ofText "+1:02:03:04:05:06" = .ok ⟨1, 2, 3, 4, 5, 6⟩ ∧
    ∀ m, ¬ Written Group "+1:02:03:04:05:06".toList m :=
  ⟨by decide, fun m h => absurd (written_iff.1 h).1 (by decide)⟩

end MacAddress
end RingContinuity
