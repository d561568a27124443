import RingContinuity.Proofs.FrameBuilding
import RingContinuity.Proofs.ReceivedFrames
import RingContinuity.Proofs.Records

/-!
# Walks over records

Every octet string starts with a number of whole records. A walk yields exactly these: it ends
without an error if the end of a sequence stands behind them, and with a single error if neither an
end nor another whole record does. The records that are appended to a frame are the ones that a walk
over the appended octets yields.
-/

namespace RingContinuity

namespace Tlv

/-! ### What stands at the front -/

/-- Neither the end of a sequence nor a whole record stands at the front. -/
structure Unfinished (rest : Octets) : Prop where
  no_end : rest.head? ≠ some endType
  no_record : ∀ t behind, Writable t → rest ≠ t.octets ++ behind

/-- The part of the record at the front that runs past the end of the octets. -/
def missingPart (rest : Octets) : TlvPart :=
  if rest.length < 1 then .type else if rest.length < 3 then .length else .value

lemma exists_record {type hi lo : UInt8} (ht : type ≠ endType) {tail : Octets}
    (hl : (Octets.word16 hi lo).toNat ≤ tail.length) :
    ∃ t behind, Writable t ∧ type :: hi :: lo :: tail = t.octets ++ behind := by
  have hlen : (tail.take (Octets.word16 hi lo).toNat).length = (Octets.word16 hi lo).toNat :=
    List.length_take_of_le hl
  refine ⟨⟨type, tail.take (Octets.word16 hi lo).toNat⟩, tail.drop (Octets.word16 hi lo).toNat,
    ⟨ht, ?_⟩, ?_⟩
  · rw [hlen]
    exact UInt16.toNat_lt _
  · have hfield : Octets.be16 (UInt16.ofNat (tail.take (Octets.word16 hi lo).toNat).length) =
        [hi, lo] := by
      rw [hlen, UInt16.ofNat_toNat, Octets.be16_word16]
    unfold octets
    rw [hfield, List.cons_append, List.append_assoc, List.take_append_drop]
    rfl

/-- A walk fails where nothing whole stands at the front, and tells what is missing. -/
lemma Unfinished.next_eq {rest : Octets} (h : Unfinished rest) (offset : Nat) :
    (Cursor.mk rest offset false).next =
      (Cursor.mk rest offset false).overrun (missingPart rest) := by
  match rest, h with
  | [], _ => rfl
  | type :: body, h =>
    have ht : type ≠ endType := fun he => h.no_end (congrArg some he)
    rw [Cursor.next_of_ne ht]
    match body, h with
    | [], _ => rfl
    | [_], _ => rfl
    | hi :: lo :: tail, h =>
      have hl : ¬ (Octets.word16 hi lo).toNat ≤ tail.length := by
        intro hl
        obtain ⟨t, behind, hw, he⟩ := exists_record ht hl
        exact h.no_record t behind hw he
      dsimp only
      rw [if_neg hl]
      rfl

/-- Every octet string is cut behind the whole records with which it starts. -/
theorem exists_split (xs : Octets) : ∃ (ts : List Tlv) (rest : Octets), (∀ t ∈ ts, Writable t) ∧
    xs = ts.flatMap octets ++ rest ∧ ((∃ behind, rest = endType :: behind) ∨ Unfinished rest) := by
  induction hn : xs.length using Nat.strong_induction_on generalizing xs with
  | _ n ih =>
  subst hn
  by_cases hend : xs.head? = some endType
  · exact ⟨[], xs, nofun, rfl, .inl (List.head?_eq_some_iff.1 hend)⟩
  by_cases hrecord : ∃ t behind, Writable t ∧ xs = t.octets ++ behind
  · obtain ⟨t, behind, ht, hxs⟩ := hrecord
    have hlt : behind.length < xs.length := by
      rw [hxs, List.length_append, length_octets]
      omega
    obtain ⟨ts, rest, hts, hsplit, hrest⟩ := ih _ hlt behind rfl
    refine ⟨t :: ts, rest, List.forall_mem_cons.2 ⟨ht, hts⟩, ?_, hrest⟩
    rw [List.flatMap_cons, List.append_assoc, ← hsplit]
    exact hxs
  · exact ⟨[], xs, nofun, rfl, .inr ⟨hend, fun t behind ht he => hrecord ⟨t, behind, ht, he⟩⟩⟩

/-! ### What a walk yields -/

namespace Cursor

/-- What the call with a number yields; the first one has number zero. -/
def call (c : Cursor) : Nat → Option (Except Error Tlv)
  | 0 => c.next.1
  | n + 1 => c.next.2.call n

/-- A walk that is over stays over. -/
lemma call_of_done {c : Cursor} (h : c.done = true) (n : Nat) : c.call n = none := by
  have hnext : c.next = (none, c) := by
    unfold next
    rw [if_pos h]
  induction n with
  | zero => exact congrArg Prod.fst hnext
  | succ n ih =>
    unfold call
    rw [hnext]
    exact ih

lemma done_of_next {c c' : Cursor} (h : c.next = (none, c')) : c'.done = true := by
  unfold next at h
  split at h
  · next hd =>
    cases h
    exact hd
  · split at h
    · cases h
    · split at h
      · cases h
        rfl
      · split at h
        · dsimp only at h
          split at h <;> cases h
        · cases h

/-- The calls of a walk yield its items one by one and nothing from then on. -/
theorem call_eq (c : Cursor) (n : Nat) : c.call n = c.collect[n]? := by
  induction n generalizing c with
  | zero =>
    unfold call
    rcases hc : c.next with ⟨_ | r, c'⟩
    · rw [collect_of_none hc]
      rfl
    · rw [collect_of_some hc]
      rfl
  | succ n ih =>
    unfold call
    rcases hc : c.next with ⟨_ | r, c'⟩
    · rw [collect_of_none hc, call_of_done (done_of_next hc)]
      rfl
    · rw [collect_of_some hc, ih]
      rfl

end Cursor

lemma walk_of_end {ts : List Tlv} (hts : ∀ t ∈ ts, Writable t) (behind : Octets) :
    walk (ts.flatMap octets ++ endType :: behind) = ts.map .ok := by
  have h := Cursor.collect_sequence hts behind 0
  rwa [sequence, List.append_assoc] at h

lemma walk_of_unfinished {ts : List Tlv} (hts : ∀ t ∈ ts, Writable t) {rest : Octets}
    (h : Unfinished rest) : walk (ts.flatMap octets ++ rest) = ts.map .ok ++
      [.error (.malformed (.tlvOverrun (missingPart rest) (ts.flatMap octets).length))] := by
  have hover : (Cursor.mk rest (0 + (ts.flatMap octets).length) true).collect = [] :=
    Cursor.collect_of_none rfl
  have hrest := Cursor.collect_of_some (h.next_eq (0 + (ts.flatMap octets).length))
  rw [hover, Nat.zero_add] at hrest
  unfold walk Cursor.start
  rw [Cursor.collect_records hts, Nat.zero_add, hrest]

/-- A walk without an error is one over a closed sequence. -/
theorem walk_eq_map_iff {xs : Octets} {ts : List Tlv} : walk xs = ts.map .ok ↔
    (∀ t ∈ ts, Writable t) ∧ ∃ behind, xs = sequence ts ++ behind := by
  constructor
  · intro h
    obtain ⟨us, rest, hus, rfl, ⟨behind, rfl⟩ | hrest⟩ := exists_split xs
    · rw [walk_of_end hus] at h
      obtain rfl : us = ts := (List.map_inj_right fun _ _ => Except.ok.inj).1 h
      exact ⟨hus, behind, (List.append_assoc (us.flatMap octets) [endType] behind).symm⟩
    · -- The error at the end of the walk is no record.
      have hlast : Except.error (Error.malformed
          (.tlvOverrun (missingPart rest) (us.flatMap octets).length)) ∈ ts.map Except.ok := by
        rw [← h, walk_of_unfinished hus hrest]
        exact List.mem_append_right _ (List.mem_singleton_self _)
      obtain ⟨t, -, ht⟩ := List.mem_map.1 hlast
      exact nomatch ht
  · rintro ⟨hts, behind, rfl⟩
    exact Cursor.collect_sequence hts behind 0

theorem readAll_eq_ok_iff {xs : Octets} {ts : List Tlv} : readAll xs = .ok ts ↔
    (∀ t ∈ ts, Writable t) ∧ ∃ behind, xs = sequence ts ++ behind :=
  mapM_id_eq_ok.trans walk_eq_map_iff

/-- A sequence that is well-formed up to its end is read the same whatever stands behind. -/
theorem readAll_append {xs : Octets} {ts : List Tlv} (h : readAll xs = .ok ts) (ys : Octets) :
    readAll (xs ++ ys) = .ok ts := by
  obtain ⟨hts, behind, rfl⟩ := readAll_eq_ok_iff.1 h
  rw [List.append_assoc]
  exact readAll_sequence hts (behind ++ ys)

/-! ### Sequences that are written -/

lemma sequence_cons (t : Tlv) (ts : List Tlv) : sequence (t :: ts) = t.octets ++ sequence ts := by
  simp only [sequence, List.flatMap_cons, List.append_assoc]

lemma length_octets_le {t : Tlv} {ts : List Tlv} (ht : t ∈ ts) :
    t.octets.length ≤ (sequence ts).length := by
  obtain ⟨before, behind, rfl⟩ := List.append_of_mem ht
  simp only [sequence, List.flatMap_append, List.flatMap_cons, List.length_append]
  omega

/-- Records that fit into a frame have lengths that fit their fields. -/
lemma writable_of_fits {ts : List Tlv} (hts : ∀ t ∈ ts, t.type ≠ endType)
    (hl : (sequence ts).length ≤ maxFrameLength) : ∀ t ∈ ts, Writable t := by
  intro t ht
  have hle := (length_octets_le ht).trans hl
  rw [length_octets] at hle
  unfold maxFrameLength at hle
  exact ⟨hts t ht, by omega⟩

end Tlv

namespace Frame

/-- Appends records and the end that closes them. -/
def addSequence : List Tlv → Edit Unit
  | [] => addEndTlv
  | t :: ts => do
    addTlv t.type t.value
    addSequence ts

lemma appends_addSequence {ts : List Tlv} (hts : ∀ t ∈ ts, t.Writable) :
    Edit.Appends (addSequence ts) (Tlv.sequence ts) none := by
  induction ts with
  | nil => exact appends_addEndTlv
  | cons t ts ih =>
    have ht := hts t List.mem_cons_self
    rw [Tlv.sequence_cons]
    exact (appends_addTlv ht.type ht.length).bind (ih fun u hu => hts u (List.mem_cons_of_mem _ hu))

/-- Whenever the edit succeeds, it has appended `xs`. -/
def Edit.Writes (e : Edit Unit) (xs : Octets) : Prop :=
  ∀ f g, e f = .ok () g → g.octets = f.octets ++ xs

section Writing

variable {e e' : Edit Unit} {xs ys : Octets} {f g : Frame}

lemma Edit.Writes.bind (h : Writes e xs) (h' : Writes e' ys) :
    Writes (e >>= fun _ => e') (xs ++ ys) := by
  intro f g hg
  change EStateM.bind e (fun _ => e') f = _ at hg
  unfold EStateM.bind at hg
  split at hg
  · next f' he =>
    rw [h' f' g hg, h f f' he, List.append_assoc]
  · exact nomatch hg

lemma writes_put (xs : Octets) : Edit.Writes (put xs) xs := by
  intro f g hg
  unfold put at hg
  split at hg
  · cases hg
    rfl
  · cases hg

lemma writes_addTlv {t : Tlv} (ht : t.type ≠ Tlv.endType) :
    Edit.Writes (addTlv t.type t.value) t.octets := by
  unfold addTlv
  rw [if_neg ht]
  by_cases hv : t.value.length < 65536
  · rw [if_pos hv]
    exact (writes_put [t.type]).bind ((writes_put _).bind (writes_put t.value))
  · rw [if_neg hv]
    intro f g hg
    exact nomatch hg

lemma writes_addSequence {ts : List Tlv} (hts : ∀ t ∈ ts, t.type ≠ Tlv.endType) :
    Edit.Writes (addSequence ts) (Tlv.sequence ts) := by
  induction ts with
  | nil => exact writes_put [Tlv.endType]
  | cons t ts ih =>
    rw [Tlv.sequence_cons]
    exact (writes_addTlv (hts t List.mem_cons_self)).bind
      (ih fun u hu => hts u (List.mem_cons_of_mem _ hu))

lemma edited_eq_ok : f.edited e = .ok g ↔ e f = .ok () g := by
  unfold edited EStateM.run
  cases e f with
  | ok u f' => simp
  | error cause f' => simp

lemma octets_of_addSequence {ts : List Tlv} (hts : ∀ t ∈ ts, t.type ≠ Tlv.endType)
    (hg : f.edited (addSequence ts) = .ok g) : g.octets = f.octets ++ Tlv.sequence ts :=
  writes_addSequence hts f g (edited_eq_ok.1 hg)

/-- A sequence of records is written if and only if the frame has room for it. -/
theorem addSequence_ok_iff {ts : List Tlv} (hts : ∀ t ∈ ts, t.type ≠ Tlv.endType) :
    (∃ g, f.edited (addSequence ts) = .ok g) ↔
      f.octets.length + (Tlv.sequence ts).length ≤ maxFrameLength := by
  constructor
  · rintro ⟨g, hg⟩
    have hle := g.length_le
    rwa [octets_of_addSequence hts hg, List.length_append] at hle
  · intro hl
    have hw := Tlv.writable_of_fits hts (by omega)
    exact ⟨_, edited_eq_ok.2 (appends_addSequence hw f hl)⟩

/-- What stands behind the records does not matter to a walk over them. -/
theorem walk_of_addSequence {ts : List Tlv} (hts : ∀ t ∈ ts, t.type ≠ Tlv.endType)
    (hg : f.edited (addSequence ts) = .ok g) (behind : Octets) :
    Tlv.walk (g.octets.drop f.octets.length ++ behind) = ts.map .ok := by
  have hl := (addSequence_ok_iff hts).1 ⟨g, hg⟩
  rw [octets_of_addSequence hts hg, List.drop_left]
  exact Tlv.walk_eq_map_iff.2 ⟨Tlv.writable_of_fits hts (by omega), behind, rfl⟩

/-- The same read through the common header, if it tells where the first record was written. -/
lemma tlvOctets_of_addSequence {ts : List Tlv} (hts : ∀ t ∈ ts, t.type ≠ Tlv.endType)
    (hg : f.edited (addSequence ts) = .ok g) {h : CfmHeader} (hh : g.header = .ok h)
    (hfirst : g.payloadOffset + h.firstTlvOffset.toNat = f.octets.length) :
    g.tlvOctets.map Tlv.walk = .ok (ts.map .ok) := by
  have hle : g.payloadOffset + h.firstTlvOffset.toNat ≤ g.octets.length := by
    rw [hfirst, octets_of_addSequence hts hg, List.length_append]
    exact Nat.le_add_right _ _
  have hwalk := walk_of_addSequence hts hg []
  rw [List.append_nil, ← hfirst] at hwalk
  unfold tlvOctets need
  rw [hh]
  change (if _ : g.payloadOffset + h.firstTlvOffset.toNat ≤ g.octets.length then _ else _ :
    Except Error Octets).map Tlv.walk = _
  rw [dif_pos hle]
  exact congrArg Except.ok hwalk

end Writing

end Frame

/-- A walk yields the whole records at the front of the octets, one with each call. It is over
behind them if the end of a sequence follows, and otherwise after one error that tells where and
what is missing. Records that fit into a frame are written into it, and a walk from the first
written octet yields them again, whatever stands behind their end. -/
theorem walk_inverts_writer :
    (∀ xs : Octets, ∃ (ts : List Tlv) (rest : Octets), (∀ t ∈ ts, t.Writable) ∧
      xs = ts.flatMap Tlv.octets ++ rest ∧
      ((∃ behind, rest = Tlv.endType :: behind) ∧ Tlv.walk xs = ts.map .ok ∨
        Tlv.Unfinished rest ∧ Tlv.walk xs = ts.map .ok ++ [.error (.malformed
          (.tlvOverrun (Tlv.missingPart rest) (ts.flatMap Tlv.octets).length))]) ∧
      ∀ n, (Tlv.Cursor.start xs).call n = (Tlv.walk xs)[n]?) ∧
    (∀ (xs : Octets) (ts : List Tlv), Tlv.walk xs = ts.map .ok ↔
      (∀ t ∈ ts, t.Writable) ∧ ∃ behind, xs = Tlv.sequence ts ++ behind) ∧
    ∀ (f : Frame) (ts : List Tlv), (∀ t ∈ ts, t.type ≠ Tlv.endType) →
      ((∃ g, f.edited (Frame.addSequence ts) = .ok g) ↔
        f.octets.length + (Tlv.sequence ts).length ≤ maxFrameLength) ∧
      ∀ g, f.edited (Frame.addSequence ts) = .ok g →
        (∀ behind, Tlv.walk (g.octets.drop f.octets.length ++ behind) = ts.map .ok) ∧
        ∀ h, g.header = .ok h → g.payloadOffset + h.firstTlvOffset.toNat = f.octets.length →
          g.tlvOctets.map Tlv.walk = .ok (ts.map .ok) := by
  refine ⟨fun xs => ?_, fun xs ts => Tlv.walk_eq_map_iff, fun f ts hts =>
    ⟨Frame.addSequence_ok_iff hts, fun g hg => ⟨Frame.walk_of_addSequence hts hg, fun h hh hfirst =>
      Frame.tlvOctets_of_addSequence hts hg hh hfirst⟩⟩⟩
  obtain ⟨ts, rest, hts, hxs, hrest⟩ := Tlv.exists_split xs
  refine ⟨ts, rest, hts, hxs, ?_, fun n => Tlv.Cursor.call_eq _ n⟩
  subst hxs
  rcases hrest with ⟨behind, rfl⟩ | hrest
  · exact .inl ⟨⟨behind, rfl⟩, Tlv.walk_of_end hts behind⟩
  · exact .inr ⟨hrest, Tlv.walk_of_unfinished hts hrest⟩

end RingContinuity
