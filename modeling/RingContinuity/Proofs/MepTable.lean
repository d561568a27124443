import RingContinuity.RemoteMep
import Mathlib.Data.List.Sort

/-!
# Tables of end points

What a received frame and a sweep do to a table, entry by entry. `apply_cases` lists the four ways
in which a frame is taken; `entry_sweep` and `mem_sweep` describe a sweep. Everything about runs of
a table is derived from these.
-/

namespace RingContinuity

def RemoteMep.swept (e : RemoteMep) (now : Nat) : RemoteMep :=
  { e with defect := e.defect || e.isOverdue now }

lemma RemoteMep.isOverdue_eq {e : RemoteMep} (h : e.expiresAt.isSome = true → e.active = true)
    (now : Nat) : e.isOverdue now = (!e.defect && e.expiresAt.any (· ≤ now)) := by
  unfold isOverdue
  cases he : e.expiresAt with
  | none => simp
  | some deadline => simp [h (by rw [he]; rfl)]

namespace MepTable

lemma lookup_eq_some_iff {rows : List (UInt16 × RemoteMep)} (id : UInt16) (e : RemoteMep)
    (h : rows.Pairwise fun r s => r.1 < s.1) : rows.lookup id = some e ↔ (id, e) ∈ rows := by
  induction rows with
  | nil => simp
  | cons row rest ih =>
    obtain ⟨k, v⟩ := row
    obtain ⟨hk, hrest⟩ := List.pairwise_cons.1 h
    rw [lookup_row, List.mem_cons, Prod.mk.injEq]
    by_cases he : id = k
    · subst he
      rw [if_pos rfl, Option.some.injEq]
      constructor
      · intro hv
        exact .inl ⟨rfl, hv.symm⟩
      · rintro (⟨-, hv⟩ | hm)
        · exact hv.symm
        · exact absurd (hk _ hm) (UInt16.lt_irrefl id)
    · rw [if_neg he, ih hrest]
      simp [he]

@[simp] lemma entry_empty (i : CcmInterval) (id : UInt16) : (empty i).entry id = {} := rfl

@[simp] lemma lossThreshold_empty (i : CcmInterval) : (empty i).lossThreshold = i.lossThreshold := rfl

@[simp] lemma lossThreshold_set (t : MepTable) (id : UInt16) (e : RemoteMep) :
    (t.set id e).lossThreshold = t.lossThreshold := rfl

@[simp] lemma lossThreshold_sweep (t : MepTable) (now : Nat) :
    (t.sweep now).1.lossThreshold = t.lossThreshold := rfl

lemma lookup_map_snd (g : RemoteMep → RemoteMep) (id : UInt16) (rows : List (UInt16 × RemoteMep)) :
    (rows.map fun r => (r.1, g r.2)).lookup id = (rows.lookup id).map g := by
  induction rows with
  | nil => rfl
  | cons row rest ih =>
    rw [List.map_cons, lookup_row, lookup_row, ih]
    split <;> rfl

/-- A sweep decides about every entry by itself. -/
theorem entry_sweep (t : MepTable) (now : Nat) (id : UInt16) :
    (t.sweep now).1.entry id = (t.entry id).swept now := by
  have h : (t.sweep now).1.rows = t.rows.map fun r => (r.1, r.2.swept now) := rfl
  rw [entry, entry, h, lookup_map_snd (·.swept now)]
  cases t.rows.lookup id <;> rfl

/-- A sweep lists exactly the end points whose silence is overdue. -/
theorem mem_sweep (t : MepTable) (now : Nat) (id : UInt16) :
    id ∈ (t.sweep now).2 ↔ (t.entry id).isOverdue now = true := by
  have hl : (t.sweep now).2 = (t.rows.filter fun r => r.2.isOverdue now).map (·.1) := rfl
  rw [hl, entry]
  constructor
  · intro h
    obtain ⟨⟨k, e⟩, hm, rfl⟩ := List.mem_map.1 h
    obtain ⟨hmem, ho⟩ := List.mem_filter.1 hm
    rw [(lookup_eq_some_iff k e t.sorted).2 hmem]
    exact ho
  · intro h
    cases hrow : t.rows.lookup id with
    | none => rw [hrow] at h; exact absurd h (by simp [RemoteMep.isOverdue])
    | some e =>
      rw [hrow] at h
      have hmem := (lookup_eq_some_iff id e t.sorted).1 hrow
      exact List.mem_map.2 ⟨(id, e), List.mem_filter.2 ⟨hmem, h⟩, rfl⟩

/-- A sweep lists ids in strictly increasing order. -/
theorem pairwise_sweep (t : MepTable) (now : Nat) : (t.sweep now).2.Pairwise (· < ·) :=
  List.pairwise_map.2 (t.sorted.filter _)

theorem sweep_congr {t u : MepTable} (now : Nat)
    (h : ∀ id, (t.entry id).isOverdue now = (u.entry id).isOverdue now) :
    (t.sweep now).2 = (u.sweep now).2 := by
  apply List.Pairwise.eq_of_mem_iff (t.pairwise_sweep now) (u.pairwise_sweep now)
  intro id
  rw [mem_sweep, mem_sweep, h id]

/-- The four ways in which a table takes a frame: the station does not listen to it, it is a
continuity check at another level or with other names, or it is accepted. -/
theorem apply_cases (t : MepTable) (f : Frame) (config : Config) (now : Nat) :
    (∃ err, Ccm.receive f config = .error err ∧ t.apply f config now = (t, .error err)) ∨
    ∃ c, Ccm.receive f config = .ok c ∧
      ((c.level ≠ config.level ∧
        t.apply f config now = (t.set c.mepId { t.entry c.mepId with levelEqual := false },
          .error (.mismatch (.level c.mepId c.level config.level)))) ∨
      (c.level = config.level ∧
        ((∃ err, c.maid.checkNames config.domainName config.associationName = .error err ∧
          t.apply f config now = (t.set c.mepId (t.entry c.mepId).seen, .error err)) ∨
        (c.maid.checkNames config.domainName config.associationName = .ok () ∧
          t.apply f config now =
            (t.set c.mepId ((t.entry c.mepId).seen.refresh c (now + t.lossThreshold)),
              .ok ⟨c.mepId, !(t.entry c.mepId).active, (t.entry c.mepId).defect⟩))))) := by
  cases hr : Ccm.receive f config with
  | error err => exact .inl ⟨err, rfl, by simp only [apply, hr]⟩
  | ok c =>
    refine .inr ⟨c, rfl, ?_⟩
    by_cases hl : c.level = config.level
    · refine .inr ⟨hl, ?_⟩
      cases hn : c.maid.checkNames config.domainName config.associationName with
      | error err => exact .inl ⟨err, rfl, by simp only [apply, hr, hl, hn, ne_eq, not_true, if_false]⟩
      | ok u => exact .inr ⟨rfl, by simp only [apply, hr, hl, hn, ne_eq, not_true, if_false]⟩
    · exact .inl ⟨hl, by simp only [apply, hr, hl, ne_eq, not_false_iff, if_true]⟩

/-- A frame changes the entry of no end point but the one that a continuity check comes from. -/
lemma entry_apply_cases (t : MepTable) (f : Frame) (config : Config) (now : Nat) (m : UInt16) :
    (t.apply f config now).1.entry m = t.entry m ∨
      ∃ c, Ccm.receive f config = .ok c ∧ c.mepId = m ∧
        ((t.apply f config now).1.entry m = { t.entry m with levelEqual := false } ∨
          (t.apply f config now).1.entry m = (t.entry m).seen ∨
          (t.apply f config now).1.entry m = (t.entry m).seen.refresh c (now + t.lossThreshold)) := by
  rcases t.apply_cases f config now with ⟨_, -, h⟩ | ⟨c, hr, hcases⟩
  · rw [h]
    exact .inl rfl
  · by_cases hm : m = c.mepId
    · subst hm
      refine .inr ⟨c, hr, rfl, ?_⟩
      rcases hcases with ⟨-, h⟩ | ⟨-, ⟨_, -, h⟩ | ⟨-, h⟩⟩ <;> rw [h, entry_set, if_pos rfl]
      · exact .inl rfl
      · exact .inr (.inl rfl)
      · exact .inr (.inr rfl)
    · rcases hcases with ⟨-, h⟩ | ⟨-, ⟨_, -, h⟩ | ⟨-, h⟩⟩ <;> rw [h, entry_set, if_neg hm] <;>
        exact .inl rfl

@[simp] lemma lossThreshold_apply (t : MepTable) (f : Frame) (config : Config) (now : Nat) :
    (t.apply f config now).1.lossThreshold = t.lossThreshold := by
  rcases t.apply_cases f config now with ⟨_, -, h⟩ | ⟨_, -, ⟨-, h⟩ | ⟨-, ⟨_, -, h⟩ | ⟨-, h⟩⟩⟩ <;>
    rw [h] <;> rfl

end MepTable
end RingContinuity
