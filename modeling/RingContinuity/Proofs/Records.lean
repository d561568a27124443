import RingContinuity.Proofs.FrameLayout
import RingContinuity.Maid

/-!
# Records and names

The readers of record sequences and of maintenance association identifiers give back what the
writers were given.
-/

namespace RingContinuity

/-! ### Record sequences -/

namespace Tlv

/-- A record that can be written: it is not the end of a sequence and its length fits its field. -/
structure Writable (t : Tlv) : Prop where
  type : t.type ≠ endType
  length : t.value.length < 65536

lemma length_octets (t : Tlv) : t.octets.length = 3 + t.value.length := by
  simp only [octets, List.length_cons, List.length_append, Octets.length_be16]
  omega

namespace Cursor

lemma collect_of_none {c c' : Cursor} (h : c.next = (none, c')) : c.collect = [] := by
  rw [collect]
  split
  · next h' =>
    rw [h] at h'
    cases h'
  · rfl

lemma collect_of_some {c c' : Cursor} {r : Except Error Tlv} (h : c.next = (some r, c')) :
    c.collect = r :: c'.collect := by
  rw [collect]
  split
  · next h' =>
    rw [h] at h'
    cases h'
    rfl
  · next h' =>
    rw [h] at h'
    cases h'

lemma next_end (rest : Octets) (offset : Nat) :
    (Cursor.mk (endType :: rest) offset false).next = (none, ⟨endType :: rest, offset, true⟩) := rfl

lemma next_of_ne {type : UInt8} (ht : type ≠ endType) (body : Octets) (offset : Nat) :
    (Cursor.mk (type :: body) offset false).next = match body with
      | hi :: lo :: tail =>
        let length := (Octets.word16 hi lo).toNat
        if length ≤ tail.length then
          (some (.ok ⟨type, tail.take length⟩), ⟨tail.drop length, offset + 3 + length, false⟩)
        else (Cursor.mk (type :: body) offset false).overrun .value
      | _ => (Cursor.mk (type :: body) offset false).overrun .length := if_neg ht

lemma next_octets {t : Tlv} (ht : t.Writable) (rest : Octets) (offset : Nat) :
    (Cursor.mk (t.octets ++ rest) offset false).next =
      (some (.ok t), ⟨rest, offset + 3 + t.value.length, false⟩) := by
  have hw : Octets.word16 (UInt16.ofNat t.value.length >>> 8).toUInt8
      (UInt16.ofNat t.value.length).toUInt8 = UInt16.ofNat t.value.length :=
    Octets.word16_be16 _
  have hn : (UInt16.ofNat t.value.length).toNat = t.value.length :=
    UInt16.toNat_ofNat_of_lt' ht.length
  have hle : t.value.length ≤ (t.value ++ rest).length := by
    rw [List.length_append]
    omega
  refine (next_of_ne ht.type _ offset).trans ?_
  change (if (Octets.word16 _ _).toNat ≤ (t.value ++ rest).length then _ else _) = _
  rw [hw, hn, if_pos hle]
  change (some (Except.ok (Tlv.mk t.type ((t.value ++ rest).take t.value.length))),
    Cursor.mk ((t.value ++ rest).drop t.value.length) (offset + 3 + t.value.length) false) = _
  rw [List.take_left, List.drop_left]

lemma collect_records {ts : List Tlv} (hts : ∀ t ∈ ts, t.Writable) (rest : Octets)
    (offset : Nat) : (Cursor.mk (ts.flatMap octets ++ rest) offset false).collect =
      ts.map .ok ++ (Cursor.mk rest (offset + (ts.flatMap octets).length) false).collect := by
  induction ts generalizing offset with
  | nil => rfl
  | cons t ts ih =>
    have hnext := next_octets (hts t List.mem_cons_self) (ts.flatMap octets ++ rest) offset
    rw [List.flatMap_cons, List.append_assoc, collect_of_some hnext,
      ih fun t ht => hts t (List.mem_cons_of_mem _ ht), List.length_append, length_octets]
    simp only [List.map_cons, List.cons_append, Nat.add_assoc]

lemma collect_sequence {ts : List Tlv} (hts : ∀ t ∈ ts, t.Writable) (rest : Octets)
    (offset : Nat) :
    (Cursor.mk (sequence ts ++ rest) offset false).collect = ts.map .ok := by
  rw [sequence, List.append_assoc, collect_records hts]
  exact (congrArg (ts.map Except.ok ++ ·) (collect_of_none (next_end rest _))).trans
    (List.append_nil _)

end Cursor

/-- Reading one after the other succeeds if and only if all items are records. -/
lemma mapM_id_eq_ok {rs : List (Except Error Tlv)} {ts : List Tlv} :
    rs.mapM id = Except.ok ts ↔ rs = ts.map .ok := by
  constructor
  · intro h
    induction rs generalizing ts with
    | nil =>
      cases h
      rfl
    | cons r rs ih =>
      rw [List.mapM_cons] at h
      cases r with
      | error cause => exact nomatch h
      | ok t =>
        cases hrs : rs.mapM (m := Except Error) id with
        | error cause =>
          rw [hrs] at h
          exact nomatch h
        | ok us =>
          rw [hrs] at h
          cases h
          rw [ih hrs]
          rfl
  · rintro rfl
    induction ts with
    | nil => rfl
    | cons t ts ih =>
      rw [List.map_cons, List.mapM_cons, ih]
      rfl

/-- The records of a sequence are read back, whatever stands behind its end. -/
theorem readAll_sequence {ts : List Tlv} (hts : ∀ t ∈ ts, t.Writable) (rest : Octets) :
    readAll (sequence ts ++ rest) = .ok ts :=
  mapM_id_eq_ok.2 (Cursor.collect_sequence hts rest 0)

end Tlv

/-! ### Names -/

lemma Octets.fit_of_le {xs : Octets} {n : Nat} (h : xs.length ≤ n) :
    fit xs n = xs ++ List.replicate (n - xs.length) 0 := by
  unfold fit
  rw [List.take_of_length_le h]

lemma Utf8.length_encode (s : String) : (encode s).length = s.utf8ByteSize := rfl

namespace Maid

variable (m : Maid)

lemma length_writtenDomain_le : m.writtenDomain.length ≤ 43 := by
  unfold writtenDomain maxDomainNameLength
  split
  · simp
  · rw [List.length_take]
    omega

lemma length_writtenAssociation_le :
    m.writtenDomain.length + m.writtenAssociation.length ≤ 44 := by
  have := length_writtenDomain_le m
  unfold writtenAssociation maidLength
  rw [List.length_take]
  omega

/-- The association format, the length of the association name and the name. -/
def associationOctets : Octets :=
  m.associationFormat :: UInt8.ofNat m.writtenAssociation.length :: m.writtenAssociation

/-- What stands in front of the association format. -/
def domainOctets : Octets :=
  if m.domainFormat = noDomain then [m.domainFormat]
  else m.domainFormat :: UInt8.ofNat m.writtenDomain.length :: m.writtenDomain

lemma length_domainOctets_le : m.domainOctets.length ≤ m.writtenDomain.length + 2 := by
  unfold domainOctets
  split
  · simp
  · simp

lemma names_eq : m.names = m.domainOctets ++ m.associationOctets := rfl

lemma length_names_le : m.names.length ≤ maidLength := by
  have hd := length_domainOctets_le m
  have ha := length_writtenAssociation_le m
  rw [names_eq, List.length_append]
  unfold associationOctets maidLength
  simp only [List.length_cons]
  omega

/-- Nothing of the written names is cut, and zeros fill the field behind them. -/
lemma encode_eq_append : m.encode = m.names ++ List.replicate (maidLength - m.names.length) 0 :=
  Octets.fit_of_le m.length_names_le

lemma encode_eq : ∃ zeros, m.encode = m.domainOctets ++ (m.associationOctets ++ zeros) := by
  refine ⟨List.replicate (maidLength - m.names.length) 0, ?_⟩
  rw [← List.append_assoc, ← names_eq, encode_eq_append]

lemma toNat_ofNat_length {xs : Octets} (h : xs.length ≤ 44) :
    (UInt8.ofNat xs.length).toNat = xs.length :=
  UInt8.toNat_ofNat_of_lt' (by change xs.length < 256; omega)

lemma encode_head (h : 0 < m.encode.length) : m.encode[0] = m.domainFormat := by
  obtain ⟨zeros, he⟩ := encode_eq m
  simp only [he]
  unfold domainOctets
  split <;> rfl

lemma encode_domainLength (hf : m.domainFormat ≠ noDomain) (h : 1 < m.encode.length) :
    m.encode[1].toNat = m.writtenDomain.length := by
  obtain ⟨zeros, he⟩ := encode_eq m
  have ho : m.domainOctets =
      m.domainFormat :: UInt8.ofNat m.writtenDomain.length :: m.writtenDomain := by
    unfold domainOctets
    rw [if_neg hf]
  have h1 : m.encode[1] = UInt8.ofNat m.writtenDomain.length := by
    simp only [he, ho]
    rfl
  have hle := length_writtenDomain_le m
  rw [h1, toNat_ofNat_length (by omega)]

lemma decodeDomain_encode (hd : m.domainFormat = domainString → m.writtenDomain ≠ [])
    (h : 48 ≤ m.encode.length) :
    ∃ pos, decodeDomain m.encode h = .ok (m.writtenDomain, pos) ∧
      pos.val = m.domainOctets.length := by
  obtain ⟨zeros, he⟩ := encode_eq m
  have hle := length_writtenDomain_le m
  by_cases hf : m.domainFormat = noDomain
  · have hw : m.writtenDomain = [] := by
      unfold writtenDomain
      rw [if_pos hf]
    have ho : m.domainOctets = [m.domainFormat] := by
      unfold domainOctets
      rw [if_pos hf]
    refine ⟨⟨1, by decide⟩, ?_, by rw [ho]; rfl⟩
    unfold decodeDomain
    rw [encode_head]
    dsimp only
    rw [if_pos hf, hw]
  · have ho : m.domainOctets =
        m.domainFormat :: UInt8.ofNat m.writtenDomain.length :: m.writtenDomain := by
      unfold domainOctets
      rw [if_neg hf]
    have hlen : ¬ (m.domainFormat = domainString ∧
        (m.writtenDomain.length < 1 ∨ maxDomainNameLength < m.writtenDomain.length)) := by
      rintro ⟨hs, hbad⟩
      have hpos := List.length_pos_iff.2 (hd hs)
      unfold maxDomainNameLength at hbad
      omega
    have hslice : (m.encode.drop 2).take m.writtenDomain.length = m.writtenDomain := by
      rw [he, ho]
      exact List.take_left ..
    have hpos : 2 + m.writtenDomain.length = m.domainOctets.length := by
      rw [ho, List.length_cons, List.length_cons]
      omega
    refine ⟨⟨2 + m.writtenDomain.length, by omega⟩, ?_, hpos⟩
    unfold decodeDomain
    rw [encode_head]
    dsimp only
    simp only [encode_domainLength m hf]
    rw [if_neg hf, if_neg hlen, dif_pos (by omega)]
    unfold Octets.slice
    rw [hslice]

lemma decodeDomain_empty (hf : m.domainFormat = domainString) (hw : m.writtenDomain = [])
    (h : 48 ≤ m.encode.length) :
    decodeDomain m.encode h = .error (.malformed (.domainNameLength 0)) := by
  have hno : m.domainFormat ≠ noDomain := by
    rw [hf]
    decide
  unfold decodeDomain
  rw [encode_head]
  dsimp only
  simp only [encode_domainLength m hno, hw]
  rw [if_neg hno, if_pos ⟨hf, .inl Nat.zero_lt_one⟩]
  rfl

lemma drop_encode {pos : Nat} (hp : pos = m.domainOctets.length) :
    ∃ zeros, m.encode.drop pos = m.associationOctets ++ zeros := by
  obtain ⟨zeros, he⟩ := encode_eq m
  exact ⟨zeros, by rw [he, hp, List.drop_left]⟩

lemma encode_associationFormat {pos : Nat} (hp : pos = m.domainOctets.length)
    (h : pos < m.encode.length) : m.encode[pos] = m.associationFormat := by
  obtain ⟨zeros, hdrop⟩ := drop_encode m hp
  rw [List.getElem_eq_iff, ← Nat.add_zero pos, ← List.getElem?_drop, hdrop]
  rfl

lemma encode_associationLength {pos : Nat} (hp : pos = m.domainOctets.length)
    (h : pos + 1 < m.encode.length) :
    m.encode[pos + 1].toNat = m.writtenAssociation.length := by
  obtain ⟨zeros, hdrop⟩ := drop_encode m hp
  have h1 : m.encode[pos + 1] = UInt8.ofNat m.writtenAssociation.length := by
    rw [List.getElem_eq_iff, ← List.getElem?_drop, hdrop]
    rfl
  have hle := length_writtenAssociation_le m
  rw [h1, toNat_ofNat_length (by omega)]

lemma decodeAssociation_encode
    (ha : m.associationFormat = associationString → m.writtenAssociation ≠ [])
    (h : 48 ≤ m.encode.length) (pos : { pos : Nat // pos + 2 ≤ 48 })
    (hp : pos.val = m.domainOctets.length) :
    decodeAssociation m.encode h pos = .ok (m.associationFormat, m.writtenAssociation) := by
  obtain ⟨zeros, hdrop⟩ := drop_encode m hp
  have hd := length_domainOctets_le m
  have hle := length_writtenAssociation_le m
  have hlen : ¬ (m.associationFormat = associationString ∧ m.writtenAssociation.length < 1) := by
    rintro ⟨hs, hbad⟩
    have hpos := List.length_pos_iff.2 (ha hs)
    omega
  have hpos := pos.property
  have hmin : min m.writtenAssociation.length (48 - (pos.val + 2)) =
      m.writtenAssociation.length := by omega
  have hslice : (m.encode.drop (pos.val + 2)).take m.writtenAssociation.length =
      m.writtenAssociation := by
    rw [← List.drop_drop, hdrop]
    exact List.take_left ..
  unfold decodeAssociation
  dsimp only
  simp only [encode_associationFormat m hp, encode_associationLength m hp, hmin]
  rw [if_neg hlen]
  unfold Octets.slice
  rw [hslice]

lemma decodeAssociation_empty (hf : m.associationFormat = associationString)
    (hw : m.writtenAssociation = []) (h : 48 ≤ m.encode.length)
    (pos : { pos : Nat // pos + 2 ≤ 48 }) (hp : pos.val = m.domainOctets.length) :
    decodeAssociation m.encode h pos = .error (.malformed .emptyAssociationName) := by
  unfold decodeAssociation
  dsimp only
  simp only [encode_associationFormat m hp, encode_associationLength m hp, hw]
  rw [if_pos ⟨hf, Nat.zero_lt_one⟩]

/-- A written identifier is read back as what was written of its names, unless a character string
name is empty. -/
theorem decode_encode (hd : m.domainFormat = domainString → m.writtenDomain ≠ [])
    (ha : m.associationFormat = associationString → m.writtenAssociation ≠ []) :
    decode m.encode =
      .ok ⟨m.domainFormat, m.writtenDomain, m.associationFormat, m.writtenAssociation⟩ := by
  have h : 48 ≤ m.encode.length := by
    rw [length_encode]
    exact Nat.le_refl 48
  obtain ⟨pos, hdom, hpos⟩ := decodeDomain_encode m hd h
  unfold decode
  rw [dif_pos h, hdom]
  dsimp only [bind, Except.bind]
  rw [decodeAssociation_encode m ha h pos hpos, encode_head]
  rfl

/-- An identifier with an empty character string name for its domain is refused. -/
lemma decode_encode_emptyDomain (hf : m.domainFormat = domainString) (hw : m.writtenDomain = []) :
    decode m.encode = .error (.malformed (.domainNameLength 0)) := by
  have h : 48 ≤ m.encode.length := m.length_encode.ge
  unfold decode
  rw [dif_pos h, decodeDomain_empty m hf hw h]
  rfl

/-- An identifier with an empty character string name for its association is refused. -/
lemma decode_encode_emptyAssociation (hd : m.domainFormat = domainString → m.writtenDomain ≠ [])
    (hf : m.associationFormat = associationString) (hw : m.writtenAssociation = []) :
    decode m.encode = .error (.malformed .emptyAssociationName) := by
  have h : 48 ≤ m.encode.length := m.length_encode.ge
  obtain ⟨pos, hdom, hpos⟩ := decodeDomain_encode m hd h
  unfold decode
  rw [dif_pos h, hdom]
  dsimp only [bind, Except.bind]
  rw [decodeAssociation_empty m hf hw h pos hpos]

/-- An identifier with an empty character string name is not read back. -/
lemma written_ne_nil {m' : Maid} (h : decode m.encode = .ok m') :
    (m.domainFormat = domainString → m.writtenDomain ≠ []) ∧
      (m.associationFormat = associationString → m.writtenAssociation ≠ []) := by
  have hd : m.domainFormat = domainString → m.writtenDomain ≠ [] := by
    intro hf hw
    rw [decode_encode_emptyDomain m hf hw] at h
    exact nomatch h
  refine ⟨hd, fun hf hw => ?_⟩
  rw [decode_encode_emptyAssociation m hd hf hw] at h
  exact nomatch h

/-- Names that a valid configuration may have are written and read back in full. -/
theorem decode_ofNames {domain association : String}
    (hd : 1 ≤ domain.utf8ByteSize ∧ domain.utf8ByteSize ≤ maxDomainNameLength)
    (ha : 1 ≤ association.utf8ByteSize ∧
      domain.utf8ByteSize + association.utf8ByteSize ≤ maidLength - 4) :
    decode (ofNames domain association).encode = .ok (ofNames domain association) := by
  have hwd : (ofNames domain association).writtenDomain = Utf8.encode domain := by
    unfold writtenDomain
    exact List.take_of_length_le hd.2
  have hwa : (ofNames domain association).writtenAssociation = Utf8.encode association := by
    unfold writtenAssociation
    rw [hwd]
    apply List.take_of_length_le
    change (Utf8.encode association).length ≤ maidLength - 4 - (Utf8.encode domain).length
    rw [Utf8.length_encode, Utf8.length_encode]
    omega
  have hdne : Utf8.encode domain ≠ [] := by
    rw [← List.length_pos_iff, Utf8.length_encode]
    exact hd.1
  have hane : Utf8.encode association ≠ [] := by
    rw [← List.length_pos_iff, Utf8.length_encode]
    exact ha.1
  rw [decode_encode _ (fun _ => by rw [hwd]; exact hdne) (fun _ => by rw [hwa]; exact hane),
    hwd, hwa]
  rfl

/-- Names that are read back in full are names that a valid configuration may have. -/
theorem of_decode_ofNames {domain association : String}
    (h : decode (ofNames domain association).encode = .ok (ofNames domain association)) :
    (1 ≤ domain.utf8ByteSize ∧ domain.utf8ByteSize ≤ maxDomainNameLength) ∧
      (1 ≤ association.utf8ByteSize ∧
        domain.utf8ByteSize + association.utf8ByteSize ≤ maidLength - 4) := by
  obtain ⟨hd, ha⟩ := written_ne_nil _ h
  rw [decode_encode _ hd ha] at h
  have hm := Except.ok.inj h
  have hwd : (ofNames domain association).writtenDomain = Utf8.encode domain :=
    congrArg Maid.domainName hm
  have hwa : (ofNames domain association).writtenAssociation = Utf8.encode association :=
    congrArg Maid.associationName hm
  -- What is written of a name is no longer than the room for it.
  have hdle := length_writtenDomain_le (ofNames domain association)
  have hale := length_writtenAssociation_le (ofNames domain association)
  have hdpos := List.length_pos_iff.2 (hd rfl)
  have hapos := List.length_pos_iff.2 (ha rfl)
  rw [hwd, Utf8.length_encode] at hdle hdpos
  rw [hwd, hwa, Utf8.length_encode, Utf8.length_encode] at hale
  rw [hwa, Utf8.length_encode] at hapos
  exact ⟨⟨hdpos, hdle⟩, hapos, hale⟩

lemma checkNames_ofNames (domain association : String) :
    (ofNames domain association).checkNames domain association = .ok () := by
  unfold checkNames ofNames
  rw [if_neg (fun h => h.2 rfl), if_neg (fun h => h.2 rfl)]

end Maid
end RingContinuity
