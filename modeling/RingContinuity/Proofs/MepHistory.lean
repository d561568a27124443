import RingContinuity.Proofs.MepTable
import Mathlib.Data.List.DropRight

/-!
# Tables and their histories

A table of end points forgets the events that it went through, yet every field of an entry can be
read off them. `RemoteMep.ofHistory` computes an entry from the list of events alone, without any
state that is carried along, and `entry_run` proves that this is the entry of the table.
-/

namespace RingContinuity

inductive MepEvent
  | apply (f : Frame) (config : Config) (now : Nat)
  | sweep (now : Nat)

/-- A continuity check that a station listened to, under the configuration that it had then. -/
structure Hearing where
  ccm : Ccm
  config : Config
  now : Nat

inductive Reception
  | otherLevel | otherNames | accepted
  deriving DecidableEq

def Hearing.reception (x : Hearing) : Reception :=
  if x.ccm.level ≠ x.config.level then .otherLevel
  else if (x.ccm.maid.checkNames x.config.domainName x.config.associationName).isOk then .accepted
  else .otherNames

namespace MepEvent

/-- The continuity check of the end point `id` that an event brings. -/
def hearing? (id : UInt16) : MepEvent → Option Hearing
  | apply f config now =>
    match Ccm.receive f config with
    | .ok c => if c.mepId = id then some ⟨c, config, now⟩ else none
    | .error _ => none
  | sweep _ => none

def acceptance? (id : UInt16) (ev : MepEvent) : Option Hearing :=
  (ev.hearing? id).filter (·.reception = .accepted)

def sweepTime? : MepEvent → Option Nat
  | apply .. => none
  | sweep now => some now

end MepEvent

def hearings (id : UInt16) (evs : List MepEvent) : List Hearing := evs.filterMap (·.hearing? id)

def acceptances (id : UInt16) (evs : List MepEvent) : List Hearing :=
  evs.filterMap (·.acceptance? id)

/-- The times of the sweeps after the last event that brought an acceptance of `id`. -/
def sweepsSince (id : UInt16) (evs : List MepEvent) : List Nat :=
  (evs.rtakeWhile fun ev => (ev.acceptance? id).isNone).filterMap MepEvent.sweepTime?

/-- What a table knows about the end point `id` after the events `evs`. -/
def RemoteMep.ofHistory (i : CcmInterval) (id : UInt16) (evs : List MepEvent) : RemoteMep :=
  let last? := (acceptances id evs).getLast?
  let expiresAt := last?.map fun x => x.now + i.millis * 7 / 2
  { mac := (last?.map (·.ccm.source)).getD .zero
    active := (hearings id evs).any (·.reception ≠ .otherLevel)
    defect := expiresAt.any fun deadline => (sweepsSince id evs).any (deadline ≤ ·)
    levelEqual := (hearings id evs).getLast?.any (·.reception ≠ .otherLevel)
    portStatus := ((acceptances id evs).filterMap (·.ccm.portStatus)).getLast?
    interfaceStatus := ((acceptances id evs).filterMap (·.ccm.interfaceStatus)).getLast?
    lastSequence := last?.map (·.ccm.sequence)
    expiresAt }

namespace MepTable

def step (t : MepTable) : MepEvent → MepTable
  | .apply f config now => (t.apply f config now).1
  | .sweep now => (t.sweep now).1

def run (t : MepTable) (evs : List MepEvent) : MepTable := evs.foldl step t

end MepTable

/-! ### One event -/

def RemoteMep.after (e : RemoteMep) (threshold : Nat) (id : UInt16) (ev : MepEvent) : RemoteMep :=
  match ev.hearing? id with
  | none => ev.sweepTime?.elim e e.swept
  | some x =>
    match x.reception with
    | .otherLevel => { e with levelEqual := false }
    | .otherNames => e.seen
    | .accepted => e.seen.refresh x.ccm (x.now + threshold)

namespace MepTable

lemma lossThreshold_step (t : MepTable) (ev : MepEvent) :
    (t.step ev).lossThreshold = t.lossThreshold := by
  cases ev with
  | apply f config now => exact lossThreshold_apply ..
  | sweep now => rfl

theorem entry_step (t : MepTable) (ev : MepEvent) (id : UInt16) :
    (t.step ev).entry id = (t.entry id).after t.lossThreshold id ev := by
  cases ev with
  | sweep now => exact entry_sweep t now id
  | apply f config now =>
    change (t.apply f config now).1.entry id = _
    rcases t.apply_cases f config now with ⟨_, hr, h⟩ | ⟨c, hr, hc⟩
    · rw [h]
      simp only [RemoteMep.after, MepEvent.hearing?, hr, MepEvent.sweepTime?, Option.elim_none]
    · by_cases hid : c.mepId = id
      · subst hid
        have hx : MepEvent.hearing? c.mepId (.apply f config now) = some ⟨c, config, now⟩ := by
          simp only [MepEvent.hearing?, hr, if_true]
        simp only [RemoteMep.after, hx]
        rcases hc with ⟨hl, h⟩ | ⟨hl, ⟨_, hn, h⟩ | ⟨hn, h⟩⟩ <;>
          rw [h, entry_set, if_pos rfl]
        · simp only [Hearing.reception, hl, ne_eq, not_false_iff, if_true]
        · simp [Hearing.reception, hl, hn, Except.isOk, Except.toBool]
        · simp [Hearing.reception, hl, hn, Except.isOk, Except.toBool]
      · have hx : MepEvent.hearing? id (.apply f config now) = none := by
          simp only [MepEvent.hearing?, hr, if_neg hid]
        have hs : (t.apply f config now).1.entry id = t.entry id := by
          rcases hc with ⟨-, h⟩ | ⟨-, ⟨_, -, h⟩ | ⟨-, h⟩⟩ <;>
            rw [h, entry_set, if_neg (Ne.symm hid)]
        simp only [RemoteMep.after, hx, MepEvent.sweepTime?, Option.elim_none, hs]

end MepTable

/-! ### Histories that grow at their end -/

section Snoc

variable (id : UInt16) (evs : List MepEvent) (ev : MepEvent)

lemma hearings_snoc : hearings id (evs ++ [ev]) = hearings id evs ++ (ev.hearing? id).toList := by
  cases h : ev.hearing? id <;> simp [hearings, h]

lemma acceptances_snoc :
    acceptances id (evs ++ [ev]) = acceptances id evs ++ (ev.acceptance? id).toList := by
  cases h : ev.acceptance? id <;> simp [acceptances, h]

lemma sweepsSince_snoc : sweepsSince id (evs ++ [ev]) =
    if (ev.acceptance? id).isNone then sweepsSince id evs ++ ev.sweepTime?.toList else [] := by
  unfold sweepsSince
  rw [List.rtakeWhile_concat]
  split
  · cases h : ev.sweepTime? <;> simp [h]
  · rfl

lemma active_of_acceptance (i : CcmInterval) {x : Hearing} (hx : x ∈ acceptances id evs) :
    (RemoteMep.ofHistory i id evs).active = true := by
  obtain ⟨ev, hev, ha⟩ := List.mem_filterMap.1 hx
  obtain ⟨hh, hr⟩ := Option.filter_eq_some_iff.1 ha
  have hne : x.reception ≠ .otherLevel := by
    rw [of_decide_eq_true hr]
    decide
  exact List.any_eq_true.2 ⟨x, List.mem_filterMap.2 ⟨ev, hev, hh⟩, decide_eq_true hne⟩

end Snoc

/-- The last acceptance alone decides whether a sweep at `now` finds the end point overdue, for
what was accepted is active. -/
lemma isOverdue_ofHistory (i : CcmInterval) (id : UInt16) (evs : List MepEvent) (now : Nat) :
    (RemoteMep.ofHistory i id evs).isOverdue now =
      (!(RemoteMep.ofHistory i id evs).defect &&
        (RemoteMep.ofHistory i id evs).expiresAt.any (· ≤ now)) := by
  apply RemoteMep.isOverdue_eq
  intro he
  cases hl : (acceptances id evs).getLast? with
  | none => simp [RemoteMep.ofHistory, hl] at he
  | some x => exact active_of_acceptance id evs i (List.mem_of_getLast? hl)

theorem ofHistory_snoc (i : CcmInterval) (id : UInt16) (evs : List MepEvent) (ev : MepEvent) :
    RemoteMep.ofHistory i id (evs ++ [ev]) =
      (RemoteMep.ofHistory i id evs).after i.lossThreshold id ev := by
  cases hx : ev.hearing? id with
  | none =>
    have ha : ev.acceptance? id = none := by simp [MepEvent.acceptance?, hx]
    have hh : hearings id (evs ++ [ev]) = hearings id evs := by simp [hearings_snoc, hx]
    have hac : acceptances id (evs ++ [ev]) = acceptances id evs := by simp [acceptances_snoc, ha]
    have hs : sweepsSince id (evs ++ [ev]) = sweepsSince id evs ++ ev.sweepTime?.toList := by
      simp [sweepsSince_snoc, ha]
    simp only [RemoteMep.after, hx]
    cases ht : ev.sweepTime? with
    | none =>
      rw [ht, Option.toList_none, List.append_nil] at hs
      simp only [RemoteMep.ofHistory, hh, hac, hs, Option.elim_none]
    | some now =>
      have hd : (RemoteMep.ofHistory i id (evs ++ [ev])).defect =
          ((RemoteMep.ofHistory i id evs).defect ||
            (RemoteMep.ofHistory i id evs).expiresAt.any (· ≤ now)) := by
        simp only [RemoteMep.ofHistory, hac, hs, ht]
        cases (acceptances id evs).getLast? <;> simp
      have hrest : RemoteMep.ofHistory i id (evs ++ [ev]) = { RemoteMep.ofHistory i id evs with
          defect := (RemoteMep.ofHistory i id (evs ++ [ev])).defect } := by
        simp only [RemoteMep.ofHistory, hh, hac]
      rw [Option.elim_some, RemoteMep.swept, isOverdue_ofHistory, hrest, hd]
      cases (RemoteMep.ofHistory i id evs).defect <;> rfl
  | some x =>
    have ht : ev.sweepTime? = none := by
      cases ev with
      | apply f config now => rfl
      | sweep now => simp [MepEvent.hearing?] at hx
    have hh : hearings id (evs ++ [ev]) = hearings id evs ++ [x] := by simp [hearings_snoc, hx]
    simp only [RemoteMep.after, hx]
    cases hr : x.reception with
    | accepted =>
      have ha : ev.acceptance? id = some x := by simp [MepEvent.acceptance?, hx, hr]
      have hac : acceptances id (evs ++ [ev]) = acceptances id evs ++ [x] := by
        simp [acceptances_snoc, ha]
      have hs : sweepsSince id (evs ++ [ev]) = [] := by simp [sweepsSince_snoc, ha]
      simp [RemoteMep.ofHistory, RemoteMep.seen, RemoteMep.refresh, hh, hac, hs, hr,
        CcmInterval.lossThreshold]
    | otherNames | otherLevel =>
      -- Neither is an acceptance, so only the two flags can change.
      have ha : ev.acceptance? id = none := by simp [MepEvent.acceptance?, hx, hr]
      have hac : acceptances id (evs ++ [ev]) = acceptances id evs := by
        simp [acceptances_snoc, ha]
      have hs : sweepsSince id (evs ++ [ev]) = sweepsSince id evs := by
        simp [sweepsSince_snoc, ha, ht]
      simp [RemoteMep.ofHistory, RemoteMep.seen, hh, hac, hs, hr]

namespace MepTable

lemma lossThreshold_run (t : MepTable) (evs : List MepEvent) :
    (t.run evs).lossThreshold = t.lossThreshold := by
  induction evs generalizing t with
  | nil => rfl
  | cons ev evs ih => exact (ih (t.step ev)).trans (t.lossThreshold_step ev)

lemma run_snoc (t : MepTable) (evs : List MepEvent) (ev : MepEvent) :
    t.run (evs ++ [ev]) = (t.run evs).step ev := by
  rw [run, run, List.foldl_append, List.foldl_cons, List.foldl_nil]

theorem entry_run (i : CcmInterval) (evs : List MepEvent) (id : UInt16) :
    ((empty i).run evs).entry id = RemoteMep.ofHistory i id evs := by
  induction evs using List.reverseRecOn with
  | nil => rfl
  | append_singleton evs ev ih =>
    rw [run_snoc, entry_step, ih, lossThreshold_run, ofHistory_snoc]
    rfl

/-- A table of end points refines its history. After any events every entry is the one that the
events call for; a sweep lists, in the order of their ids, the end points that are not in defect
yet and whose last acceptance is three and a half intervals back; and a frame is accepted if it
brings a continuity check that the history counts as accepted. -/
theorem run_refines_history (i : CcmInterval) (evs : List MepEvent) :
    (∀ id, ((empty i).run evs).get? id =
      if 1 ≤ id ∧ id ≤ maxMepId then some (RemoteMep.ofHistory i id evs) else none) ∧
    (∀ now, (((empty i).run evs).sweep now).2.Pairwise (· < ·) ∧
      ∀ id, id ∈ (((empty i).run evs).sweep now).2 ↔
        (RemoteMep.ofHistory i id evs).defect = false ∧
          ∃ x, (acceptances id evs).getLast? = some x ∧ x.now + i.millis * 7 / 2 ≤ now) ∧
    ∀ f config now, (((empty i).run evs).apply f config now).2.isOk = true ↔
      ∃ c, Ccm.receive f config = .ok c ∧ (Hearing.mk c config now).reception = .accepted := by
  refine ⟨fun id => ?_, fun now => ⟨pairwise_sweep _ now, fun id => ?_⟩, fun f config now => ?_⟩
  · rw [get?, entry_run]
    have hid : (id = 0 ∨ maxMepId < id) ↔ ¬(1 ≤ id ∧ id ≤ maxMepId) := by
      simp only [← UInt16.toNat_inj, UInt16.lt_iff_toNat_lt, UInt16.le_iff_toNat_le]
      have h0 : (0 : UInt16).toNat = 0 := rfl
      have h1 : (1 : UInt16).toNat = 1 := rfl
      omega
    by_cases h : 1 ≤ id ∧ id ≤ maxMepId
    · rw [if_neg (fun hn => hid.1 hn h), if_pos h]
    · rw [if_pos (hid.2 h), if_neg h]
  · have hd : (RemoteMep.ofHistory i id evs).expiresAt.any (· ≤ now) = true ↔
        ∃ x, (acceptances id evs).getLast? = some x ∧ x.now + i.millis * 7 / 2 ≤ now := by
      unfold RemoteMep.ofHistory
      cases (acceptances id evs).getLast? <;> simp
    rw [mem_sweep, entry_run, isOverdue_ofHistory, Bool.and_eq_true, Bool.not_eq_true', hd]
  · rcases ((empty i).run evs).apply_cases f config now with
      ⟨_, hr, h⟩ | ⟨c, hr, ⟨hl, h⟩ | ⟨hl, ⟨_, hn, h⟩ | ⟨hn, h⟩⟩⟩ <;>
      simp [Hearing.reception, Except.isOk, Except.toBool, *]

end MepTable

end RingContinuity
