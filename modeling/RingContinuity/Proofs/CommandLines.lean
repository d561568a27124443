import RingContinuity.CommandLine.Reader
import RingContinuity.CommandLine.Writer
import RingContinuity.Proofs.ConfigTexts
import Mathlib.Data.List.TakeWhile

/-!
# Configurations on the command line

Every configuration can be asked for on the command line. The settings may come in any order and
each with its letter or with its name, and those that stand for a default may be left out.
-/

namespace RingContinuity

/-! ### Numerals read back -/

namespace Numeral

lemma extend?_of_isDigit {cs : List Char} (h : ∀ c ∈ cs, Json.isDigit c = true) (n : Nat) :
    extend? decimalDigit? 10 n cs =
      some ((cs.filterMap decimalDigit?).foldl (fun n d => 10 * n + d) n) := by
  induction cs generalizing n with
  | nil => rfl
  | cons c cs ih =>
    obtain ⟨d, hd⟩ := Option.isSome_iff_exists.1 (h c List.mem_cons_self)
    rw [extend?, hd, List.filterMap_cons_some hd]
    exact ih (fun k hk => h k (List.mem_cons_of_mem c hk)) (10 * n + d)

/-- A numeral starts with a digit. -/
lemma exists_toString_eq_cons (n : Nat) :
    ∃ c cs, (toString n).toList = c :: cs ∧ Json.isDigit c = true := by
  obtain ⟨c, cs, hc, hd, -⟩ := Json.exists_toDigits_eq_cons n
  exact ⟨c, cs, String.toList_ofList.trans hc, hd⟩

lemma decimal?_toString (n : Nat) : decimal? (toString n).toList = some n := by
  have hextend := extend?_of_isDigit (Json.isDigit_of_mem_toDigits n) 0
  have htext : (toString n).toList = Nat.toDigits 10 n := String.toList_ofList
  have hvalue := Json.ofDigits_toDigits n
  unfold Json.ofDigits at hvalue
  obtain ⟨c, cs, hc, hd⟩ := exists_toString_eq_cons n
  have hplus : c ≠ '+' := Json.ne_of_isDigit hd (by decide)
  rw [hvalue, ← htext, hc] at hextend
  rw [hc, decimal?, unsigned?]
  · exact hextend
  · exact fun ds h => hplus (List.cons.inj h).1

end Numeral

namespace CommandLine

namespace Arguments

variable {n limit : Nat}

lemma unsignedBelow?_toString (h : n < limit) :
    unsignedBelow? limit (toString n).toList = some n := by
  rw [unsignedBelow?, Numeral.decimal?_toString, Option.filter_some, if_pos (decide_eq_true h)]

lemma signedBelow?_toString (h : n < limit) : signedBelow? limit (toString n).toList = some n := by
  obtain ⟨c, cs, hc, hd⟩ := Numeral.exists_toString_eq_cons n
  have hminus : c ≠ '-' := Json.ne_of_isDigit hd (by decide)
  rw [← unsignedBelow?_toString h, hc, signedBelow?, unsignedBelow?]
  exact fun ds h => hminus (List.cons.inj h).1

end Arguments
end CommandLine

/-! ### Settings for the fields -/

namespace Config

open CommandLine

/-- The setting that a field is set with. -/
def Field.setting : Field → Setting
  | interface => .interface
  | localMac => .localMac
  | remoteMac => .target
  | vlan => .vlan
  | level => .level
  | ringId => .ringId
  | mepId => .mepId
  | interval => .interval
  | skips => .skips
  | domainName => .domain
  | associationName => .association
  | verbose => .verbose

lemma Field.setting_injective {f g : Field} (h : f.setting = g.setting) : f = g := by
  cases f <;> cases g <;> first | rfl | exact nomatch h

/-- The arguments that ask for a configuration. -/
def arguments (c : Config) : Arguments where
  interface := c.interface
  mepId := c.mepId
  target := c.remoteMac
  ringId := c.ringId
  vlan := c.vlan
  level := c.level
  millis := UInt64.ofNat c.interval.millis
  skips := c.skips
  domain := c.domainName
  association := c.associationName
  verbose := c.verbose
  localMac := c.localMac

/-- The settings have the defaults of the fields that they set. -/
lemma arguments_default : ({} : Config).arguments = {} := rfl

lemma millis_lt (i : CcmInterval) : i.millis < UInt64.size := by cases i <;> decide

lemma toConfig_arguments (c : Config) : c.arguments.toConfig = .ok c := by
  have hmillis : c.arguments.millis.toNat = c.interval.millis :=
    UInt64.toNat_ofNat_of_lt (millis_lt c.interval)
  unfold Arguments.toConfig
  rw [hmillis, CcmInterval.ofMillis_millis]
  rfl

/-- A field that the command line has no value for has its default. -/
lemma Field.agree_of_valueFor?_eq_none {f : Field} {c : Config}
    (h : f.setting.valueFor? c = none) : f.Agree c {} := by
  cases f with
  | localMac => exact Option.map_eq_none_iff.1 h
  | remoteMac => exact Option.map_eq_none_iff.1 h
  | mepId => exact Option.map_eq_none_iff.1 h
  | verbose =>
    simp only [setting, Setting.valueFor?, ite_eq_right_iff, reduceCtorEq, imp_false,
      Bool.not_eq_true] at h
    exact h
  | _ => exact nomatch h

section Values

variable {f : Field} {c : Config} {value : String}

lemma read?_toString (m : MacAddress) : MacAddress.read? (toString m).toList = some m := by
  have h : MacAddress.read? (MacAddress.Spelling.usual.write m) = some m :=
    MacAddress.read?_eq_some_iff.2 (MacAddress.Spelling.usual.written_write m)
  rwa [MacAddress.Spelling.usual_write, ← String.toList_ofList (l := m.text)] at h

lemma verbose_of_valueFor? (h : Field.verbose.setting.valueFor? c = some value) :
    c.verbose = true ∧ "" = value := by
  simpa [Field.setting, Setting.valueFor?] using h

/-- The value of a field is read back into the field. -/
theorem set?_valueFor (h : f.setting.valueFor? c = some value) (d : Config) :
    d.arguments.set? f.setting value.toList = some (f.copy c d).arguments := by
  cases f with
  | interface =>
    obtain rfl : c.interface = value := Option.some.inj h
    simp [Field.setting, Arguments.set?, arguments, Field.copy]
  | domainName =>
    obtain rfl : c.domainName = value := Option.some.inj h
    simp [Field.setting, Arguments.set?, arguments, Field.copy]
  | associationName =>
    obtain rfl : c.associationName = value := Option.some.inj h
    simp [Field.setting, Arguments.set?, arguments, Field.copy]
  | localMac =>
    obtain ⟨m, hm, rfl⟩ := Option.map_eq_some_iff.1 h
    simp [Field.setting, Arguments.set?, read?_toString, arguments, Field.copy, hm]
  | remoteMac =>
    obtain ⟨m, hm, rfl⟩ := Option.map_eq_some_iff.1 h
    simp [Field.setting, Arguments.set?, read?_toString, arguments, Field.copy, hm]
  | mepId =>
    obtain ⟨n, hn, rfl⟩ := Option.map_eq_some_iff.1 h
    have hvalue : Arguments.signedBelow? UInt16.size (toString n).toList = some n.toNat :=
      Arguments.signedBelow?_toString n.toNat_lt
    simp [Field.setting, Arguments.set?, hvalue, arguments, Field.copy, hn]
  | vlan =>
    obtain rfl : toString c.vlan = value := Option.some.inj h
    have hvalue : Arguments.signedBelow? UInt16.size (toString c.vlan).toList = some c.vlan.toNat :=
      Arguments.signedBelow?_toString c.vlan.toNat_lt
    simp [Field.setting, Arguments.set?, hvalue, arguments, Field.copy]
  | level =>
    obtain rfl : toString c.level = value := Option.some.inj h
    have hvalue : Arguments.signedBelow? UInt8.size (toString c.level).toList =
        some c.level.toNat := Arguments.signedBelow?_toString c.level.toNat_lt
    simp [Field.setting, Arguments.set?, hvalue, arguments, Field.copy]
  | ringId =>
    obtain rfl : toString c.ringId = value := Option.some.inj h
    have hvalue : Arguments.signedBelow? UInt8.size (toString c.ringId).toList =
        some c.ringId.toNat := Arguments.signedBelow?_toString c.ringId.toNat_lt
    simp [Field.setting, Arguments.set?, hvalue, arguments, Field.copy]
  | skips =>
    obtain rfl : toString c.skips = value := Option.some.inj h
    have hvalue : Arguments.signedBelow? UInt32.size (toString c.skips).toList =
        some c.skips.toNat := Arguments.signedBelow?_toString c.skips.toNat_lt
    simp [Field.setting, Arguments.set?, hvalue, arguments, Field.copy]
  | interval =>
    obtain rfl : toString c.interval.millis = value := Option.some.inj h
    have hvalue := Arguments.unsignedBelow?_toString (millis_lt c.interval)
    simp only [Field.setting, Arguments.set?, hvalue, arguments, Field.copy, Option.map_some]
  | verbose =>
    obtain ⟨hv, -⟩ := verbose_of_valueFor? h
    simp [Field.setting, Arguments.set?, arguments, Field.copy, hv]

/-- No name that is given on the command line is taken for a setting. -/
structure Plain (c : Config) : Prop where
  interface : c.interface.toList.head? ≠ some '-'
  domainName : c.domainName.toList.head? ≠ some '-'
  associationName : c.associationName.toList.head? ≠ some '-'

lemma head?_number (n : Nat) : (toString n).toList.head? ≠ some '-' := by
  obtain ⟨k, ks, hk, hdigit⟩ := Numeral.exists_toString_eq_cons n
  rw [hk]
  exact fun he => Json.ne_of_isDigit hdigit (by decide) (Option.some.inj he)

lemma head?_address (m : MacAddress) : (toString m).toList.head? ≠ some '-' := by
  have htext : (toString m).toList = m.text := String.toList_ofList
  have hdigit : Numeral.IsHexDigit (Numeral.hexDigit (m.o0.toNat / 16)) :=
    (MacAddress.Spelling.usual.digit_value (m.o0.toNat / 16)).1
  rw [htext]
  intro he
  rw [Option.some.inj he] at hdigit
  exact absurd hdigit (by decide)

/-- Only a name could start with a hyphen. -/
theorem Plain.head?_valueFor (hc : c.Plain) (h : f.setting.valueFor? c = some value) :
    value.toList.head? ≠ some '-' := by
  cases f with
  | interface => exact Option.some.inj h ▸ hc.interface
  | domainName => exact Option.some.inj h ▸ hc.domainName
  | associationName => exact Option.some.inj h ▸ hc.associationName
  | localMac =>
    obtain ⟨m, -, rfl⟩ := Option.map_eq_some_iff.1 h
    exact head?_address m
  | remoteMac =>
    obtain ⟨m, -, rfl⟩ := Option.map_eq_some_iff.1 h
    exact head?_address m
  | mepId =>
    obtain ⟨n, -, rfl⟩ := Option.map_eq_some_iff.1 h
    exact head?_number n.toNat
  | vlan => exact Option.some.inj h ▸ head?_number c.vlan.toNat
  | level => exact Option.some.inj h ▸ head?_number c.level.toNat
  | ringId => exact Option.some.inj h ▸ head?_number c.ringId.toNat
  | skips => exact Option.some.inj h ▸ head?_number c.skips.toNat
  | interval => exact Option.some.inj h ▸ head?_number c.interval.millis
  | verbose =>
    obtain ⟨-, rfl⟩ := verbose_of_valueFor? h
    decide

end Values

end Config

/-! ### Words -/

namespace CommandLine

namespace Setting

lemma equals_notMem_long (s : Setting) : '=' ∉ s.long.toList := by cases s <;> decide

lemma short?_ne_hyphen (s : Setting) : s.short? ≠ some '-' := by cases s <;> decide

end Setting

namespace Progress

variable {p : Progress}

lemma takeLong_long (p : Progress) (s : Setting) :
    p.takeLong s.long.toList = if s.isFlag then p.raise s else p.await s := by
  have hall : ∀ c ∈ s.long.toList, decide (c ≠ '=') = true := fun c hc =>
    decide_eq_true fun he => s.equals_notMem_long (he ▸ hc)
  have hname : s.long.toList.takeWhile (· ≠ '=') = s.long.toList :=
    List.takeWhile_eq_self_iff.2 hall
  have hvalue : s.long.toList.dropWhile (· ≠ '=') = [] := List.dropWhile_eq_nil_iff.2 hall
  rw [takeLong, hname, hvalue, Setting.ofLong?_long]

lemma takeShort_short {s : Setting} {c : Char} (h : s.short? = some c) (p : Progress) :
    p.takeShort [c] = if s.isFlag then p.raise s else p.await s := by
  rw [takeShort, Setting.ofShort?_of_short? h]
  dsimp only
  cases s.isFlag with
  | false => rfl
  | true =>
    rw [if_pos rfl, if_pos rfl]
    cases p.raise s <;> rfl

/-- The name of a setting is understood, whether it is its letter or the long one. -/
theorem take_word (h : p.trailing = false) (s : Setting) (asLetter : Bool) :
    p.take (s.word asLetter).toList = if s.isFlag then p.raise s else p.await s := by
  have hlong : p.take ("--" ++ s.long).toList =
      if s.isFlag then p.raise s else p.await s := by
    have hname : s.long.toList ≠ [] := by cases s <;> decide
    rw [← takeLong_long, String.toList_append]
    change p.take ('-' :: '-' :: s.long.toList) = _
    rw [take, h, if_neg Bool.false_ne_true]
    exact hname
  unfold Setting.word
  split
  · next c hc =>
    cases asLetter with
    | false => exact hlong
    | true =>
      have hhyphen : c ≠ '-' := by
        rintro rfl
        exact s.short?_ne_hyphen hc
      rw [← takeShort_short hc p, if_pos rfl, String.toList_ofList, take, h,
        if_neg Bool.false_ne_true]
      · exact fun he _ => hhyphen he
      · exact hhyphen
  · exact hlong

lemma take_value (h : p.trailing = false) {w : List Char} (hw : w.head? ≠ some '-') :
    p.take w = p.takeValue w := by
  unfold take
  rw [h, if_neg Bool.false_ne_true]
  split
  · exact absurd rfl hw
  · exact absurd rfl hw
  · exact absurd rfl hw
  · rfl

/-! ### Progress -/

/-- Everything that was read so far asks for the configuration, with these settings. -/
structure AsksFor (p : Progress) (d : Config) (given : List Setting) : Prop where
  trailing : p.trailing = false
  settle : p.settle = .ok { arguments := d.arguments, given }

section AsksFor

variable {c d : Config} {given : List Setting} {f : Config.Field} {value : String}

lemma asksFor_start : AsksFor {} {} [] where
  trailing := rfl
  settle := by
    rw [Config.arguments_default]
    rfl

lemma assign_valueFor (hf : f.setting ∉ given) (hvalue : f.setting.valueFor? c = some value) :
    ({ arguments := d.arguments, given } : Progress).assign f.setting value.toList =
      .ok { arguments := (f.copy c d).arguments, given := f.setting :: given } := by
  rw [assign, if_neg hf]
  dsimp only
  rw [Config.set?_valueFor hvalue]

/-- The words of a field that was not given before are read into the field. -/
theorem AsksFor.words (h : p.AsksFor d given) (hf : f.setting ∉ given)
    (hvalue : f.setting.valueFor? c = some value) (hv : value.toList.head? ≠ some '-')
    (asLetter : Bool) :
    ∃ q, (f.setting.words asLetter c).foldlM (fun p w => p.take w.toList) p = .ok q ∧
      q.AsksFor (f.copy c d) (f.setting :: given) := by
  have hassign := assign_valueFor (d := d) hf hvalue
  have hword := take_word h.trailing f.setting asLetter
  unfold Setting.words
  rw [hvalue]
  cases hflag : f.setting.isFlag with
  | true =>
    obtain rfl : f = .verbose := by cases f <;> first | rfl | exact nomatch hflag
    obtain ⟨-, rfl⟩ := Config.verbose_of_valueFor? hvalue
    refine ⟨⟨(Config.Field.verbose.copy c d).arguments, Setting.verbose :: given, none, false⟩, ?_,
      rfl, rfl⟩
    rw [hflag, if_pos rfl, raise, h.settle] at hword
    simp only [if_true, List.foldlM_cons, List.foldlM_nil, hword]
    exact congrArg (· >>= pure) hassign
  | false =>
    rw [hflag, if_neg Bool.false_ne_true, await, h.settle] at hword
    refine ⟨⟨d.arguments, given, some (f.setting, some value.toList), false⟩, ?_, rfl, hassign⟩
    simp only [Bool.false_eq_true, if_false, List.foldlM_cons, List.foldlM_nil, hword]
    exact congrArg (· >>= pure) (take_value rfl hv)

end AsksFor
end Progress
end CommandLine

/-! ### Command lines -/

namespace Config

open CommandLine

/-- The words for some fields in the given order, each with the letter of its setting or its name. A
field that the command line has no value for takes no words. -/
def words (c : Config) (fields : List (Field × Bool)) : List String :=
  wordsFor (fields.map (Prod.map Field.setting id)) c

section Words

variable {c d : Config} {given : List Setting} {p : Progress}

lemma words_cons (f : Field × Bool) (fields : List (Field × Bool)) :
    c.words (f :: fields) = f.1.setting.words f.2 c ++ c.words fields := by
  simp [words, wordsFor]

/-- The words are read field by field. -/
theorem asksFor_words (hc : c.Plain) {fields : List (Field × Bool)}
    (hn : (fields.map Prod.fst).Nodup) (hp : p.AsksFor d given)
    (hgiven : ∀ f ∈ fields, f.1.setting ∉ given)
    (hvalue : ∀ f ∈ fields, (f.1.setting.valueFor? c).isSome) :
    ∃ q, (c.words fields).foldlM (fun p w => p.take w.toList) p = .ok q ∧
      q.AsksFor ((fields.map Prod.fst).foldl (fun d f => f.copy c d) d)
        (((fields.map Prod.fst).map Field.setting).reverse ++ given) := by
  induction fields generalizing p d given with
  | nil => exact ⟨p, rfl, hp⟩
  | cons f fields ih =>
    rw [List.map_cons, List.nodup_cons] at hn
    obtain ⟨value, hv⟩ := Option.isSome_iff_exists.1 (hvalue f List.mem_cons_self)
    obtain ⟨q, hq, hasks⟩ := hp.words (hgiven f List.mem_cons_self) hv (hc.head?_valueFor hv) f.2
    have hfresh : ∀ g ∈ fields, g.1.setting ∉ f.1.setting :: given := by
      intro g hg hmem
      rcases List.mem_cons.1 hmem with he | hmem
      · exact hn.1 (Field.setting_injective he ▸ List.mem_map_of_mem hg)
      · exact hgiven g (List.mem_cons_of_mem f hg) hmem
    obtain ⟨r, hr, hrest⟩ := ih hn.2 hasks hfresh fun g hg => hvalue g (List.mem_cons_of_mem f hg)
    refine ⟨r, ?_, ?_⟩
    · rw [words_cons, List.foldlM_append, hq]
      exact hr
    · simpa using hrest

/-- The fields that the command line has a value for. -/
def valued (c : Config) (fields : List (Field × Bool)) : List (Field × Bool) :=
  fields.filter fun f => (f.1.setting.valueFor? c).isSome

lemma words_valued (c : Config) (fields : List (Field × Bool)) :
    c.words (c.valued fields) = c.words fields := by
  induction fields with
  | nil => rfl
  | cons f fields ih =>
    unfold valued at ih ⊢
    cases hv : f.1.setting.valueFor? c with
    | none =>
      have hwords : f.1.setting.words f.2 c = [] := by rw [Setting.words, hv]
      rw [List.filter_cons_of_neg (by simp [hv]), ih, words_cons, hwords, List.nil_append]
    | some value => rw [List.filter_cons_of_pos (by simp [hv]), words_cons, ih, words_cons]

lemma only_valued (c : Config) (fields : List (Field × Bool)) :
    c.only ((c.valued fields).map Prod.fst) = c.only (fields.map Prod.fst) := by
  refine eq_of_agree fun f => ?_
  have hvalued := c.agree_only ((c.valued fields).map Prod.fst) f
  have hall := c.agree_only (fields.map Prod.fst) f
  by_cases hf : f ∈ fields.map Prod.fst
  · rw [if_pos hf] at hall
    refine Field.Agree.trans ?_ hall.symm
    split at hvalued
    · exact hvalued
    · next hnot =>
      refine hvalued.trans (Field.Agree.symm (Field.agree_of_valueFor?_eq_none ?_))
      obtain ⟨g, hg, rfl⟩ := List.mem_map.1 hf
      rw [← Option.not_isSome_iff_eq_none]
      exact fun hsome => hnot (List.mem_map_of_mem (List.mem_filter.2 ⟨hg, hsome⟩))
  · have hnot : f ∉ (c.valued fields).map Prod.fst := fun hmem =>
      hf ((List.filter_sublist.map Prod.fst).subset hmem)
    rw [if_neg hf] at hall
    rw [if_neg hnot] at hvalued
    exact hvalued.trans hall.symm

/-- The fields that are given on the command line, among them the interface, are those of the
configuration and the others have their defaults. -/
theorem ofWords_words (hc : c.Plain) {fields : List (Field × Bool)}
    (hn : (fields.map Prod.fst).Nodup) (hi : Field.interface ∈ fields.map Prod.fst) :
    Arguments.ofWords (c.words fields) = .ok (c.only (fields.map Prod.fst)).arguments := by
  have hnodup : ((c.valued fields).map Prod.fst).Nodup :=
    (List.filter_sublist.map Prod.fst).nodup hn
  obtain ⟨q, hq, hasks⟩ := asksFor_words hc hnodup Progress.asksFor_start
    (fun _ _ => List.not_mem_nil) fun f hf => (List.mem_filter.1 hf).2
  rw [foldl_copy, only_valued, List.append_nil] at hasks
  rw [words_valued] at hq
  have hgiven : Setting.interface ∈
      (((c.valued fields).map Prod.fst).map Field.setting).reverse := by
    obtain ⟨f, hf, hfi⟩ := List.mem_map.1 hi
    have hmem : f ∈ c.valued fields := List.mem_filter.2 ⟨hf, by rw [hfi]; rfl⟩
    rw [List.mem_reverse, List.mem_map]
    exact ⟨.interface, List.mem_map.2 ⟨f, hmem, hfi⟩, rfl⟩
  unfold Arguments.ofWords Progress.finish
  simp only [bind, Except.bind, hq, hasks.settle]
  exact if_pos hgiven

end Words

/-- Every configuration whose names do not start with hyphens can be asked for on the command line:
by the words for its interface and for every field that differs from its default, in any order, each
with the letter of its setting or its name, and perhaps with those for other fields. The arguments
are the same for all of these command lines. -/
theorem asked_for {c : Config} (hc : c.Plain) {fields : List (Field × Bool)}
    (hn : (fields.map Prod.fst).Nodup) (hi : Field.interface ∈ fields.map Prod.fst)
    (hrest : ∀ f ∉ fields.map Prod.fst, f.Agree c {}) :
    Arguments.ofWords (c.words fields) = .ok c.arguments ∧ c.arguments.toConfig = .ok c := by
  have honly : c.only (fields.map Prod.fst) = c := by
    refine eq_of_agree fun f => ?_
    have h := c.agree_only (fields.map Prod.fst) f
    by_cases hf : f ∈ fields.map Prod.fst
    · rwa [if_pos hf] at h
    · rw [if_neg hf] at h
      exact h.trans (hrest f hf).symm
  have hwords := ofWords_words hc hn hi
  rw [honly] at hwords
  exact ⟨hwords, c.toConfig_arguments⟩

/-- A field may be given although it has its default, and a flag stands alone. -/
theorem asked_for_four :
    let c : Config := { interface := "eth0", remoteMac := some ⟨2, 0, 0, 0, 0, 9⟩, verbose := true }
    let fields := [(Field.verbose, true), (.remoteMac, false), (.interface, true), (.vlan, true)]
    c.words fields = ["-V", "--target", "02:00:00:00:00:09", "-i", "eth0", "-v", "0"] ∧
    Arguments.ofWords (c.words fields) = .ok c.arguments ∧ c.arguments.toConfig = .ok c := by
  intro c fields
  refine ⟨by decide, asked_for ⟨by decide, by decide, by decide⟩ (by decide) (by decide) ?_⟩
  intro f hf
  cases f <;> first | rfl | exact absurd (by decide) hf

end Config
end RingContinuity
