import RingContinuity.Proofs.CcmReception
import RingContinuity.Proofs.UncheckedReads
import Mathlib.Data.List.TakeDrop

/-!
# Fields of names

The field of 48 octets that names a maintenance association is read back as the names that were
written into it, as far as they are written. A field that was read and is written again comes out as
it was, with the exception of two kinds of fields whose names are as long as they can be.
-/

namespace RingContinuity

/-! ### Writing in place -/

namespace Trapping

/-- The string with `field` copied to the octets from `start` to before `stop`. -/
def store (xs : Octets) (start stop : Nat) (field : Octets) : Trapping Octets :=
  if start ≤ stop ∧ stop ≤ xs.length ∧ field.length = stop - start then
    pure (Octets.overwrite xs start field)
  else trap

/-- Stores the domain format and as many octets of the name as told into a field of zeros, and tells
where they end. -/
def storeDomain (m : Maid) (length : Nat) : Trapping (Octets × Nat) := do
  let xs ← store (List.replicate maidLength 0) 0 1 [m.domainFormat]
  if m.domainFormat = Maid.noDomain then return (xs, 1)
  else do
    let xs ← store xs 1 2 [UInt8.ofNat length]
    let stop ← add 2 length
    return (← store xs 2 stop (← range m.domainName 0 length), stop)

/-- Stores the association format and as many octets of the name as told from `pos` on. -/
def storeAssociation (m : Maid) (length : Nat) (xs : Octets) (pos : Nat) : Trapping Octets := do
  let next ← add pos 1
  let start ← add pos 2
  let xs ← store xs pos next [m.associationFormat]
  let xs ← store xs next start [UInt8.ofNat length]
  store xs start (← add start length) (← range m.associationName 0 length)

/-- The names written one after the other into the octets of the field. -/
def storeMaid (m : Maid) : Trapping Octets := do
  let domainLength :=
    if m.domainFormat = Maid.noDomain then 0 else min m.domainName.length maxDomainNameLength
  let room ← sub (← sub maidLength 4) domainLength
  let (xs, pos) ← storeDomain m domainLength
  storeAssociation m (min m.associationName.length room) xs pos

/-- The next field is stored behind the octets that have been stored before. -/
lemma store_fit {before field : Octets} {start stop n : Nat} (hs : start = before.length)
    (he : stop = start + field.length) (h : stop ≤ n) :
    store (Octets.fit before n) start stop field = pure (Octets.fit (before ++ field) n) := by
  subst hs he
  have hinside : before.length ≤ before.length + field.length ∧
      before.length + field.length ≤ (Octets.fit before n).length ∧
      field.length = before.length + field.length - before.length := by
    rw [Octets.length_fit]
    omega
  have hle : (before ++ field).length ≤ n := by rwa [List.length_append]
  unfold store
  rw [if_pos hinside, Octets.fit_of_le (by omega : before.length ≤ n), Octets.fit_of_le hle]
  unfold Octets.overwrite
  rw [List.take_left, List.drop_append, List.drop_eq_nil_of_le (Nat.le_add_right _ _),
    List.nil_append, List.drop_replicate, List.length_append]
  congr 3
  omega

/-- The octets of a name that are stored are those of its written part. -/
lemma range_of_prefix {name part : Octets} (h : part <+: name) :
    range name 0 part.length = pure part :=
  (range_eq (Nat.zero_le _) h.length_le).trans (congrArg pure (List.prefix_iff_eq_take.1 h).symm)

section Names

variable (m : Maid)

lemma storeDomain_eq : storeDomain m m.writtenDomain.length =
    pure (Octets.fit m.domainOctets maidLength, m.domainOctets.length) := by
  have hd := m.length_writtenDomain_le
  have hzeros : List.replicate maidLength 0 = Octets.fit [] maidLength := rfl
  have hformat : store (Octets.fit [] maidLength) 0 1 [m.domainFormat] =
      pure (Octets.fit [m.domainFormat] maidLength) := store_fit rfl rfl (by decide)
  unfold storeDomain Maid.domainOctets
  rw [hzeros, hformat, pure_bind]
  by_cases hno : m.domainFormat = Maid.noDomain
  · rw [if_pos hno, if_pos hno]
    rfl
  · have hlength : store (Octets.fit [m.domainFormat] maidLength) 1 2
        [UInt8.ofNat m.writtenDomain.length] = pure (Octets.fit
          [m.domainFormat, UInt8.ofNat m.writtenDomain.length] maidLength) :=
      store_fit rfl rfl (by decide)
    have hname : store (Octets.fit [m.domainFormat, UInt8.ofNat m.writtenDomain.length] maidLength)
        2 (2 + m.writtenDomain.length) m.writtenDomain = pure (Octets.fit
          (m.domainFormat :: UInt8.ofNat m.writtenDomain.length :: m.writtenDomain) maidLength) :=
      store_fit rfl rfl (by unfold maidLength; omega)
    have hprefix : m.writtenDomain <+: m.domainName := by
      unfold Maid.writtenDomain
      rw [if_neg hno]
      exact List.take_prefix ..
    rw [if_neg hno, if_neg hno, hlength, pure_bind, add_eq (lt_offsetLimit (by omega)), pure_bind,
      range_of_prefix hprefix, pure_bind, hname, pure_bind, Nat.add_comm]
    rfl

lemma storeAssociation_eq {before : Octets}
    (h : before.length + m.associationOctets.length ≤ maidLength) :
    storeAssociation m m.writtenAssociation.length (Octets.fit before maidLength) before.length =
      pure (Octets.fit (before ++ m.associationOctets) maidLength) := by
  have hl : before.length + (m.writtenAssociation.length + 2) ≤ 48 := h
  have hformat : store (Octets.fit before maidLength) before.length (before.length + 1)
      [m.associationFormat] = pure (Octets.fit (before ++ [m.associationFormat]) maidLength) :=
    store_fit rfl rfl (by unfold maidLength; omega)
  have hlength : store (Octets.fit (before ++ [m.associationFormat]) maidLength)
      (before.length + 1) (before.length + 2) [UInt8.ofNat m.writtenAssociation.length] =
      pure (Octets.fit ((before ++ [m.associationFormat]) ++
        [UInt8.ofNat m.writtenAssociation.length]) maidLength) :=
    store_fit (by simp) rfl (by unfold maidLength; omega)
  have hname : store (Octets.fit ((before ++ [m.associationFormat]) ++
      [UInt8.ofNat m.writtenAssociation.length]) maidLength) (before.length + 2)
      (before.length + 2 + m.writtenAssociation.length) m.writtenAssociation =
      pure (Octets.fit (((before ++ [m.associationFormat]) ++
        [UInt8.ofNat m.writtenAssociation.length]) ++ m.writtenAssociation) maidLength) :=
    store_fit (by simp) rfl (by unfold maidLength; omega)
  have hprefix : m.writtenAssociation <+: m.associationName := List.take_prefix ..
  unfold storeAssociation
  rw [add_eq (lt_offsetLimit (by omega)), pure_bind, add_eq (lt_offsetLimit (by omega)), pure_bind,
    hformat, pure_bind, hlength, pure_bind, add_eq (lt_offsetLimit (by omega)), pure_bind,
    range_of_prefix hprefix, pure_bind, hname]
  simp only [Maid.associationOctets, List.append_assoc, List.cons_append, List.nil_append]

/-- Nothing is stored outside of the field, and what is stored is the written field. -/
theorem storeMaid_eq : storeMaid m = pure m.encode := by
  have hd := m.length_writtenDomain_le
  have hdomain : (if m.domainFormat = Maid.noDomain then 0
      else min m.domainName.length maxDomainNameLength) = m.writtenDomain.length := by
    unfold Maid.writtenDomain
    split
    · rfl
    · rw [List.length_take, Nat.min_comm]
  have hassociation : min m.associationName.length (maidLength - 4 - m.writtenDomain.length) =
      m.writtenAssociation.length := by
    unfold Maid.writtenAssociation
    rw [List.length_take, Nat.min_comm]
  have hfits := m.length_names_le
  rw [Maid.names_eq, List.length_append] at hfits
  unfold storeMaid
  rw [sub_eq (by decide), pure_bind]
  dsimp only
  rw [hdomain, sub_eq (by unfold maidLength; omega), pure_bind, storeDomain_eq, pure_bind]
  dsimp only
  rw [hassociation, storeAssociation_eq m hfits, ← Maid.names_eq]
  rfl

end Names

end Trapping

lemma Utf8.encode_injective : Function.Injective Utf8.encode := by
  intro s t h
  exact String.toByteArray_inj.1 (ByteArray.ext (Array.toList_inj.1 h))

namespace Maid

/-! ### Names that are written -/

section Written

variable (m : Maid)

lemma writtenDomain_eq_nil_iff (hf : m.domainFormat ≠ noDomain) :
    m.writtenDomain = [] ↔ m.domainName = [] := by
  unfold writtenDomain
  rw [if_neg hf, List.take_eq_nil_iff]
  exact or_iff_right (by decide)

lemma writtenAssociation_eq_nil_iff : m.writtenAssociation = [] ↔ m.associationName = [] := by
  have hd := length_writtenDomain_le m
  unfold writtenAssociation maidLength
  rw [List.take_eq_nil_iff]
  exact or_iff_right (by omega)

lemma domainString_ne_noDomain : domainString ≠ noDomain := by decide

/-- What is read from a field that was written. -/
theorem decode_encode_eq : decode m.encode =
    if m.domainFormat = domainString ∧ m.domainName = [] then
      .error (.malformed (.domainNameLength 0))
    else if m.associationFormat = associationString ∧ m.associationName = [] then
      .error (.malformed .emptyAssociationName)
    else
      .ok ⟨m.domainFormat, m.writtenDomain, m.associationFormat, m.writtenAssociation⟩ := by
  have hdomain (hf : m.domainFormat = domainString) : m.writtenDomain = [] ↔ m.domainName = [] :=
    writtenDomain_eq_nil_iff m (hf ▸ domainString_ne_noDomain)
  by_cases hd : m.domainFormat = domainString ∧ m.domainName = []
  · rw [if_pos hd]
    exact decode_encode_emptyDomain m hd.1 ((hdomain hd.1).2 hd.2)
  rw [if_neg hd]
  have hd : m.domainFormat = domainString → m.writtenDomain ≠ [] :=
    fun hf hw => hd ⟨hf, (hdomain hf).1 hw⟩
  by_cases ha : m.associationFormat = associationString ∧ m.associationName = []
  · rw [if_pos ha]
    exact decode_encode_emptyAssociation m hd ha.1 ((writtenAssociation_eq_nil_iff m).2 ha.2)
  · rw [if_neg ha]
    exact decode_encode m hd fun hf hw => ha ⟨hf, (writtenAssociation_eq_nil_iff m).1 hw⟩

end Written

/-! ### Distinct names -/

lemma ofNames_injective {domain association domain' association' : String}
    (h : ofNames domain association = ofNames domain' association') :
    domain = domain' ∧ association = association' := by
  have hd := Utf8.encode_injective (congrArg domainName h)
  have ha := Utf8.encode_injective (congrArg associationName h)
  exact ⟨hd, ha⟩

/-- Valid configurations with different names write different fields. -/
theorem encode_ofNames_injective {c c' : Config} (hc : c.Valid) (hc' : c'.Valid)
    (h : (ofNames c.domainName c.associationName).encode =
      (ofNames c'.domainName c'.associationName).encode) :
    c.domainName = c'.domainName ∧ c.associationName = c'.associationName := by
  have hread := decode_ofNames hc.domain hc.association
  rw [h, decode_ofNames hc'.domain hc'.association] at hread
  exact ofNames_injective (Except.ok.inj hread).symm

/-- Of the names that are written, a field has the first 43 octets of the domain name, unless the
format is the one without a name, and of the association name as many as 44 octets have room for
beside it. It is read back as these parts, or refused for an empty character string name. It is
written without a store outside of it, and with zeros behind the names. So the fields of valid
configurations differ if their names do. -/
theorem names_read_back :
    (∀ m : Maid,
      m.writtenDomain = (if m.domainFormat = noDomain then [] else m.domainName.take 43) ∧
      m.writtenAssociation = m.associationName.take (44 - m.writtenDomain.length) ∧
      decode m.encode =
        (if m.domainFormat = domainString ∧ m.domainName = [] then
          .error (.malformed (.domainNameLength 0))
        else if m.associationFormat = associationString ∧ m.associationName = [] then
          .error (.malformed .emptyAssociationName)
        else .ok ⟨m.domainFormat, m.writtenDomain, m.associationFormat, m.writtenAssociation⟩) ∧
      Trapping.storeMaid m = pure m.encode ∧ m.names.length ≤ 48 ∧
      m.encode = m.names ++ List.replicate (48 - m.names.length) 0) ∧
    ∀ c c' : Config, c.validate = .ok () → c'.validate = .ok () →
      (ofNames c.domainName c.associationName).encode =
        (ofNames c'.domainName c'.associationName).encode →
      c.domainName = c'.domainName ∧ c.associationName = c'.associationName := by
  refine ⟨fun m => ⟨rfl, rfl, m.decode_encode_eq, Trapping.storeMaid_eq m, m.length_names_le,
    m.encode_eq_append⟩, fun c c' hc hc' h => ?_⟩
  exact encode_ofNames_injective (Config.valid_of_validate hc) (Config.valid_of_validate hc') h

/-! ### Fields that are read -/

/-- Where the association format stands in a field. -/
def associationOffset (xs : Octets) : Nat :=
  if xs.getD 0 0 = noDomain then 1 else 2 + (xs.getD 1 0).toNat

/-- The length that a field tells of its association name. -/
def declaredLength (xs : Octets) : Nat := (xs.getD (associationOffset xs + 1) 0).toNat

/-- A field whose association name ends inside it and has zeros behind. -/
structure Tidy (xs : Octets) : Prop where
  length : xs.length = maidLength
  inside : associationOffset xs + 2 + declaredLength xs ≤ maidLength
  zeros : ∀ b ∈ xs.drop (associationOffset xs + 2 + declaredLength xs), b = 0

/-- Both names in full, with their formats and lengths. -/
def fullNames (m : Maid) : Octets :=
  (if m.domainFormat = noDomain then [m.domainFormat]
    else m.domainFormat :: UInt8.ofNat m.domainName.length :: m.domainName) ++
  m.associationFormat :: UInt8.ofNat m.associationName.length :: m.associationName

section Parts

variable {xs d a : Octets} {g : UInt8} {h : 48 ≤ xs.length} {pos : { pos : Nat // pos + 2 ≤ 48 }}

/-- The domain that is read stands in front of the association format. -/
lemma of_decodeDomain (hd : decodeDomain xs h = .ok (d, pos)) :
    pos.val = associationOffset xs ∧
      xs.take pos.val =
        (if xs.getD 0 0 = noDomain then [xs.getD 0 0]
          else xs.getD 0 0 :: UInt8.ofNat d.length :: d) ∧
      (xs.getD 0 0 = noDomain → d = []) ∧
      (xs.getD 0 0 = domainString → d.length ≤ maxDomainNameLength) := by
  match xs, h with
  | format :: length :: body, h =>
    unfold decodeDomain at hd
    unfold associationOffset
    change pos.val = (if format = noDomain then 1 else 2 + length.toNat) ∧
      List.take pos.val (format :: length :: body) =
        (if format = noDomain then [format] else format :: UInt8.ofNat d.length :: d) ∧
      (format = noDomain → d = []) ∧ (format = domainString → d.length ≤ maxDomainNameLength)
    dsimp only [List.getElem_cons_zero, List.getElem_cons_succ] at hd
    by_cases hno : format = noDomain
    · rw [if_pos hno] at hd ⊢
      cases hd
      refine ⟨rfl, (if_pos hno).symm, fun _ => rfl, fun _ => Nat.zero_le _⟩
    rw [if_neg hno] at hd ⊢
    split at hd
    · cases hd
    next hname =>
    split at hd
    · next hn =>
      have hlength : (body.take length.toNat).length = length.toNat := by
        rw [List.length_cons, List.length_cons] at h
        rw [List.length_take]
        omega
      cases hd
      refine ⟨rfl, ?_, fun hno' => absurd hno' hno, fun hs => ?_⟩
      · rw [if_neg hno]
        change List.take (2 + length.toNat) (format :: length :: body) =
          format :: UInt8.ofNat (body.take length.toNat).length :: body.take length.toNat
        rw [hlength, UInt8.ofNat_toNat, Nat.add_comm]
        rfl
      · change (body.take length.toNat).length ≤ maxDomainNameLength
        rw [hlength]
        exact Nat.not_lt.1 fun hlt => hname ⟨hs, .inr hlt⟩
    · cases hd

lemma of_decodeAssociation (ha : decodeAssociation xs h pos = .ok (g, a)) :
    ∃ n behind, xs.drop pos.val = g :: n :: behind ∧ n = xs.getD (pos.val + 1) 0 ∧
      a = behind.take (min n.toNat (48 - (pos.val + 2))) := by
  have hpos := pos.property
  unfold decodeAssociation at ha
  dsimp only at ha
  split at ha
  · cases ha
  · cases ha
    refine ⟨xs[pos.val + 1], xs.drop (pos.val + 2), ?_, ?_, ?_⟩
    · rw [List.drop_eq_getElem_cons (by omega), List.drop_eq_getElem_cons (by omega)]
    · rw [List.getD_eq_getElem?_getD, List.getElem?_eq_getElem (by omega), Option.getD_some]
    · rfl

/-- In a tidy field, the association name is read in full. -/
lemma Tidy.drop_eq (hx : Tidy xs) (hpos : pos.val = associationOffset xs)
    (ha : decodeAssociation xs h pos = .ok (g, a)) : pos.val + 2 + a.length ≤ maidLength ∧
      xs.drop pos.val = (g :: UInt8.ofNat a.length :: a) ++
        List.replicate (maidLength - (pos.val + 2 + a.length)) 0 := by
  obtain ⟨n, behind, hdrop, hn, hname⟩ := of_decodeAssociation ha
  have hdeclared : declaredLength xs = n.toNat := by
    unfold declaredLength
    rw [← hpos, ← hn]
  have hbehind : xs.drop (pos.val + 2) = behind := by
    rw [← List.drop_drop, hdrop]
    rfl
  have hlbehind : behind.length = 48 - (pos.val + 2) := by
    rw [← hbehind, List.length_drop, hx.length]
    rfl
  have hin := hx.inside
  rw [← hpos, hdeclared] at hin
  have hn48 : n.toNat ≤ 48 - (pos.val + 2) := Nat.le_sub_of_add_le' hin
  rw [Nat.min_eq_left hn48] at hname
  have hlname : a.length = n.toNat := by
    rw [hname, List.length_take_of_le (hlbehind ▸ hn48)]
  have hzeros : behind.drop n.toNat =
      List.replicate (maidLength - (pos.val + 2 + n.toNat)) 0 := by
    rw [List.eq_replicate_iff, List.length_drop, hlbehind, ← hbehind, List.drop_drop]
    refine ⟨Nat.sub_sub .., ?_⟩
    have hz := hx.zeros
    rwa [← hpos, hdeclared] at hz
  rw [hlname, UInt8.ofNat_toNat, ← hzeros, hdrop, hname]
  refine ⟨hin, ?_⟩
  simp only [List.cons_append, List.take_append_drop]

end Parts

lemma of_decode {xs : Octets} {m : Maid} (hm : decode xs = .ok m) (h : 48 ≤ xs.length) :
    m.domainFormat = xs.getD 0 0 ∧ ∃ pos, decodeDomain xs h = .ok (m.domainName, pos) ∧
      decodeAssociation xs h pos = .ok (m.associationFormat, m.associationName) := by
  unfold decode at hm
  rw [dif_pos h] at hm
  cases hd : decodeDomain xs h with
  | error cause =>
    rw [hd] at hm
    cases hm
  | ok domain =>
    rw [hd] at hm
    dsimp only [bind, Except.bind] at hm
    cases ha : decodeAssociation xs h domain.2 with
    | error cause =>
      rw [ha] at hm
      cases hm
    | ok association =>
      rw [ha] at hm
      cases hm
      exact ⟨List.getElem_eq_getD 0, domain.2, rfl, ha⟩

/-- A tidy field consists of the names that are read from it and of zeros. -/
theorem Tidy.eq_fit {xs : Octets} {m : Maid} (hx : Tidy xs) (hm : decode xs = .ok m) :
    xs = Octets.fit m.fullNames maidLength ∧ m.fullNames.length ≤ maidLength ∧
      (m.domainFormat = noDomain → m.domainName = []) ∧
      (m.domainFormat = domainString → m.domainName.length ≤ maxDomainNameLength) := by
  obtain ⟨hformat, pos, hdomain, hassociation⟩ := of_decode hm hx.length.ge
  obtain ⟨hpos, htake, hno, hstring⟩ := of_decodeDomain hdomain
  obtain ⟨hin, hdrop⟩ := hx.drop_eq hpos hassociation
  have hfull : m.fullNames = xs.take pos.val ++
      (m.associationFormat :: UInt8.ofNat m.associationName.length :: m.associationName) := by
    unfold fullNames
    rw [htake, hformat]
  have hlfull : m.fullNames.length = pos.val + 2 + m.associationName.length := by
    have hltake : (xs.take pos.val).length = pos.val := by
      rw [List.length_take_of_le (by rw [hx.length]; omega)]
    rw [hfull, List.length_append, hltake, List.length_cons, List.length_cons]
    omega
  refine ⟨?_, hlfull ▸ hin, hformat ▸ hno, hformat ▸ hstring⟩
  rw [Octets.fit_of_le (hlfull ▸ hin), hlfull, hfull, List.append_assoc, ← hdrop,
    List.take_append_drop]

/-- Both names are written in full if and only if there is room for them. -/
lemma written_eq_iff {m : Maid} (hno : m.domainFormat = noDomain → m.domainName = []) :
    (m.writtenDomain = m.domainName ∧ m.writtenAssociation = m.associationName) ↔
      m.domainName.length ≤ 43 ∧ m.domainName.length + m.associationName.length ≤ 44 := by
  have hdomain : m.writtenDomain = m.domainName ↔ m.domainName.length ≤ 43 := by
    unfold writtenDomain
    split
    · next hf =>
      rw [hno hf]
      exact iff_of_true rfl (Nat.zero_le 43)
    · exact List.take_eq_self_iff _
  rw [hdomain]
  refine and_congr_right fun hd => ?_
  unfold writtenAssociation maidLength
  rw [hdomain.2 hd, List.take_eq_self_iff]
  omega

/-- What is written of an identifier is its field if and only if both names are written in full. -/
lemma Tidy.encode_eq_iff {xs : Octets} {m : Maid} (hx : Tidy xs) (hm : decode xs = .ok m) :
    m.encode = xs ↔ m.writtenDomain = m.domainName ∧ m.writtenAssociation = m.associationName := by
  constructor
  · intro h
    have hread := hm
    rw [← h] at hread
    obtain ⟨hd, ha⟩ := m.written_ne_nil hread
    rw [m.decode_encode hd ha] at hread
    have heq := Except.ok.inj hread
    exact ⟨congrArg domainName heq, congrArg associationName heq⟩
  · rintro ⟨hd, ha⟩
    rw [(hx.eq_fit hm).1]
    unfold encode names fullNames
    rw [hd, ha]

/-- A field that was read is written again as it was, but for two kinds of fields: those without a
domain whose association name has 45 octets, and those whose domain name has 44. Neither length is
possible beside a character string name of the domain. -/
theorem encode_decode_iff {xs : Octets} {m : Maid} (hx : Tidy xs) (hm : decode xs = .ok m) :
    (m.encode = xs ↔ ¬ (m.domainFormat = noDomain ∧ m.associationName.length = 45) ∧
      m.domainName.length ≠ 44) ∧
    (m.domainFormat = domainString → m.encode = xs) := by
  obtain ⟨-, hl, hno, hstring⟩ := hx.eq_fit hm
  rw [hx.encode_eq_iff hm, written_eq_iff hno]
  unfold fullNames maidLength at hl
  unfold maxDomainNameLength at hstring
  rw [List.length_append, List.length_cons, List.length_cons] at hl
  by_cases hf : m.domainFormat = noDomain
  · rw [if_pos hf, List.length_singleton] at hl
    rw [hno hf, hf, List.length_nil]
    refine ⟨⟨fun h => ⟨fun hlong => ?_, Nat.zero_ne_add_one 43⟩, fun h => ⟨Nat.zero_le 43, ?_⟩⟩,
      fun hs => absurd hs (by decide)⟩
    · omega
    · have hne : m.associationName.length ≠ 45 := fun h45 => h.1 ⟨rfl, h45⟩
      omega
  · rw [if_neg hf, List.length_cons, List.length_cons] at hl
    refine ⟨⟨fun h => ⟨fun hlong => hf hlong.1, ?_⟩, fun h => ⟨?_, ?_⟩⟩, fun hs => ⟨hstring hs, ?_⟩⟩
    · omega
    · have hne := h.2
      omega
    · omega
    · omega

theorem encode_decode_iff_oneSpare :
    encode ⟨1, [], 1, List.replicate 44 65⟩ = 1 :: 1 :: 44 :: List.replicate 44 65 ++ [0] :=
  (encode_decode_iff ⟨by decide, by decide, fun _ => List.mem_singleton.1⟩ (by decide)).1.2
    (by decide)

/-- A field without a domain whose association name fills it loses the last octet of the name. -/
theorem encode_cuts_last :
    decode (1 :: 1 :: 45 :: List.replicate 45 65) = .ok ⟨1, [], 1, List.replicate 45 65⟩ ∧
      Tidy (1 :: 1 :: 45 :: List.replicate 45 65) ∧
      encode ⟨1, [], 1, List.replicate 45 65⟩ ≠ 1 :: 1 :: 45 :: List.replicate 45 65 :=
  ⟨by decide, ⟨by decide, by decide, nofun⟩, by decide⟩

end Maid
end RingContinuity
