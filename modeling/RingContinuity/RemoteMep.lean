import RingContinuity.Ccm

/-!
# Remote end points

What a station knows about the other end points, by their ids: whether they were seen, where, in
which state, and when their silence becomes a defect. Continuity checks update the table and sweeps
find the end points that fell silent.
-/

namespace RingContinuity

/-- The state of the connection to a remote end point. -/
inductive MepState
  | unseen | healthy | defect
  deriving DecidableEq

/-- What is known about a remote end point. -/
structure RemoteMep where
  mac : MacAddress := .zero
  active : Bool := false
  defect : Bool := false
  /-- Whether the last continuity check was at the level of the station. -/
  levelEqual : Bool := false
  portStatus : Option UInt8 := none
  interfaceStatus : Option UInt8 := none
  lastSequence : Option UInt32 := none
  /-- The time from which on silence is a defect. -/
  expiresAt : Option Nat := none
  deriving DecidableEq

namespace RemoteMep

def state (e : RemoteMep) : MepState :=
  if e.active then (if e.defect then .defect else .healthy) else .unseen

/-- Marks the end point as seen at the station's level. -/
def seen (e : RemoteMep) : RemoteMep := { e with active := true, levelEqual := true }

/-- Takes over what an accepted continuity check says. A status that it does not carry stays. -/
def refresh (e : RemoteMep) (c : Ccm) (deadline : Nat) : RemoteMep :=
  { e with
    mac := c.source
    defect := false
    portStatus := c.portStatus.or e.portStatus
    interfaceStatus := c.interfaceStatus.or e.interfaceStatus
    lastSequence := some c.sequence
    expiresAt := some deadline }

/-- Whether a sweep at `now` finds that the end point has fallen silent. -/
def isOverdue (e : RemoteMep) (now : Nat) : Bool :=
  e.active && !e.defect && (match e.expiresAt with
    | some deadline => deadline ≤ now
    | none => false)

end RemoteMep

/-- What an accepted continuity check changed. -/
structure CcmAccepted where
  mepId : UInt16
  firstSeen : Bool
  recovered : Bool
  deriving DecidableEq

/-- The end points that left a trace, in the order of their ids. -/
structure MepTable where
  rows : List (UInt16 × RemoteMep)
  /-- The silence in milliseconds after which an end point is lost. -/
  lossThreshold : Nat
  sorted : rows.Pairwise (fun r s => r.1 < s.1)
  deriving DecidableEq

namespace MepTable

def empty (interval : CcmInterval) : MepTable := ⟨[], interval.lossThreshold, .nil⟩

def entry (t : MepTable) (id : UInt16) : RemoteMep := (t.rows.lookup id).getD {}

/-- What is known about an end point, for an id that an end point may have. -/
def get? (t : MepTable) (id : UInt16) : Option RemoteMep :=
  if id = 0 ∨ maxMepId < id then none else some (t.entry id)

/-- The rows with the one of `id` put in or replaced. -/
def setRow (id : UInt16) (e : RemoteMep) :
    List (UInt16 × RemoteMep) → List (UInt16 × RemoteMep)
  | [] => [(id, e)]
  | (k, v) :: rest =>
    if id < k then (id, e) :: (k, v) :: rest
    else if id = k then (id, e) :: rest
    else (k, v) :: setRow id e rest

theorem fst_of_mem_setRow {id : UInt16} {e : RemoteMep} {rows : List (UInt16 × RemoteMep)}
    {r : UInt16 × RemoteMep} (h : r ∈ setRow id e rows) :
    r.1 = id ∨ ∃ s ∈ rows, s.1 = r.1 := by
  induction rows with
  | nil => simp only [setRow, List.mem_singleton] at h; simp [h]
  | cons row rest ih =>
    obtain ⟨k, v⟩ := row
    simp only [setRow] at h
    split at h
    · rcases List.mem_cons.1 h with rfl | h
      · exact .inl rfl
      · exact .inr ⟨r, h, rfl⟩
    · split at h
      · rcases List.mem_cons.1 h with rfl | h
        · exact .inl rfl
        · exact .inr ⟨r, List.mem_cons_of_mem _ h, rfl⟩
      · rcases List.mem_cons.1 h with rfl | h
        · exact .inr ⟨(k, v), List.mem_cons_self, rfl⟩
        · rcases ih h with h | ⟨s, hs, he⟩
          · exact .inl h
          · exact .inr ⟨s, List.mem_cons_of_mem _ hs, he⟩

theorem pairwise_setRow {id : UInt16} {e : RemoteMep} {rows : List (UInt16 × RemoteMep)}
    (h : rows.Pairwise (fun r s => r.1 < s.1)) :
    (setRow id e rows).Pairwise (fun r s => r.1 < s.1) := by
  induction rows with
  | nil => simp [setRow]
  | cons row rest ih =>
    obtain ⟨k, v⟩ := row
    obtain ⟨hk, hrest⟩ := List.pairwise_cons.1 h
    simp only [setRow]
    split
    · next hlt =>
      refine List.pairwise_cons.2 ⟨fun s hs => ?_, h⟩
      rcases List.mem_cons.1 hs with rfl | hs
      · exact hlt
      · exact UInt16.lt_trans hlt (hk s hs)
    · next hge =>
      split
      · next he =>
        subst he
        exact List.pairwise_cons.2 ⟨hk, hrest⟩
      · next hne =>
        refine List.pairwise_cons.2 ⟨fun s hs => ?_, ih hrest⟩
        rcases fst_of_mem_setRow hs with he | ⟨r, hr, he⟩
        · simp only [he, UInt16.lt_iff_toNat_lt] at hge ⊢
          have : id.toNat ≠ k.toNat := fun h => hne (UInt16.toNat_inj.1 h)
          omega
        · exact he ▸ hk r hr

def set (t : MepTable) (id : UInt16) (e : RemoteMep) : MepTable :=
  ⟨setRow id e t.rows, t.lossThreshold, pairwise_setRow t.sorted⟩

theorem lookup_row (k j : UInt16) (v : RemoteMep) (rows : List (UInt16 × RemoteMep)) :
    List.lookup k ((j, v) :: rows) = if k = j then some v else rows.lookup k := by
  by_cases h : k = j
  · simp [h]
  · rw [List.lookup_cons, beq_eq_false_iff_ne.2 h, if_neg h]

theorem lookup_setRow (id k : UInt16) (e : RemoteMep) (rows : List (UInt16 × RemoteMep)) :
    (setRow id e rows).lookup k = if k = id then some e else rows.lookup k := by
  induction rows with
  | nil => rw [setRow, lookup_row]
  | cons row rest ih =>
    obtain ⟨j, v⟩ := row
    rw [setRow]
    split
    · rw [lookup_row]
    · split
      · next he =>
        subst he
        rw [lookup_row, lookup_row]
        split <;> rfl
      · next hne =>
        rw [lookup_row, lookup_row, ih]
        by_cases h : k = j
        · rw [if_pos h, if_pos h, if_neg fun hk => hne (hk.symm.trans h)]
        · rw [if_neg h, if_neg h]

/-- Setting an entry changes that entry and no other. -/
theorem entry_set (t : MepTable) (id k : UInt16) (e : RemoteMep) :
    (t.set id e).entry k = if k = id then e else t.entry k := by
  simp only [entry, set, lookup_setRow]
  split <;> rfl

/-- The active end points, in the order of their ids. -/
def active (t : MepTable) : List (UInt16 × RemoteMep) := t.rows.filter (·.2.active)

/-- Applies the receive rules to a frame. The level is checked before the end point becomes active
and the names only afterwards, so a continuity check with other names makes an end point active
without a deadline. -/
def apply (t : MepTable) (f : Frame) (config : Config) (now : Nat) :
    MepTable × Except Error CcmAccepted :=
  match Ccm.receive f config with
  | .error err => (t, .error err)
  | .ok c =>
    let e := t.entry c.mepId
    if c.level ≠ config.level then
      (t.set c.mepId { e with levelEqual := false },
        .error (.mismatch (.level c.mepId c.level config.level)))
    else match c.maid.checkNames config.domainName config.associationName with
      | .error err => (t.set c.mepId e.seen, .error err)
      | .ok () =>
        (t.set c.mepId (e.seen.refresh c (now + t.lossThreshold)),
          .ok ⟨c.mepId, !e.active, e.defect⟩)

/-- Declares a defect of every healthy end point whose deadline has passed, and lists them. -/
def sweep (t : MepTable) (now : Nat) : MepTable × List UInt16 :=
  ({ t with
      rows := t.rows.map fun (id, e) => (id, { e with defect := e.defect || e.isOverdue now })
      sorted := List.pairwise_map.2 t.sorted },
    (t.rows.filter (·.2.isOverdue now)).map (·.1))

end MepTable
end RingContinuity
