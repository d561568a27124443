import RingContinuity.Proofs.EngineSteps
import RingContinuity.Proofs.Network

/-!
# The receive pipeline

Octets that an engine reads go through a queue and a batch before they are decoded and dispatched.
However the reading activity, the dispatching one, the schedule and the operator take turns, the
pipeline keeps the order, loses nothing and doubles nothing, and octets that hold no frame leave no
trace in what becomes of the others.
-/

namespace RingContinuity

lemma filterMap_cons_append {α β : Type} (f : α → Option β) (x : α) (xs : List α) :
    (x :: xs).filterMap f = (f x).toList ++ xs.filterMap f := by
  rw [List.filterMap_cons]
  cases f x <;> rfl

/-- Whether octets are neither too few nor too many for a frame. -/
def Octets.holdFrame (xs : Octets) : Bool := 1 ≤ xs.length && xs.length ≤ maxFrameLength

/-- Octets are decoded as one frame or as none. -/
lemma Frame.octets_of_decode (xs : Octets) : match (decode xs).1 with
    | .ok (some f) => xs.holdFrame = true ∧ f.octets = xs
    | _ => xs.holdFrame = false := by
  unfold decode Octets.holdFrame
  by_cases he : xs = []
  · rw [if_pos he, he]
    rfl
  · rw [if_neg he]
    have hpos : 1 ≤ xs.length := List.length_pos_iff.2 he
    unfold ofOctets
    by_cases hl : xs.length ≤ maxFrameLength
    · rw [dif_pos hl]
      exact ⟨by simp [hpos, hl], rfl⟩
    · rw [dif_neg hl]
      change (decide _ && decide (xs.length ≤ maxFrameLength)) = false
      rw [decide_eq_false hl, Bool.and_false]

namespace Report

/-- Whether a step shows more than that octets without a frame pass. -/
def isLoud : Report → Bool
  | .quiet => false
  | .obtained xs | .decoded xs _ => xs.holdFrame
  | .ticked _ | .traced _ => true

end Report

/-- The octets that a read brings. -/
def Event.octets? : Event → Option Octets
  | .read (.frame xs) => some xs
  | _ => none

/-- The octets of the frame that is dispatched. -/
def NodeAct.octets? : NodeAct → Option Octets
  | .dispatch f _ => some f.octets
  | _ => none

namespace DispatchPhase

def batch : DispatchPhase → List Octets
  | .idle => []
  | .collecting batch | .handling _ batch => batch

variable (phase : DispatchPhase) (queue : List Octets)

end DispatchPhase

namespace Engine

variable (e : Engine)

/-! ### Order -/

/-- What was read and has not been decoded, oldest first. -/
def waiting : List Octets := e.phase.batch ++ e.queue

variable {e} in
lemma Spares.waiting {e' : Engine} (h : e.Spares e') : e'.waiting = e.waiting := by
  unfold Engine.waiting
  rw [h.phase, h.queue]

end Engine

/-! ### Octets without a frame -/

namespace DispatchPhase

/-- The second phase is that of an activity which was spared octets without a frame. A batch that
has none left has not even woken it. -/
inductive Sifts : DispatchPhase → DispatchPhase → Prop
  | asleep {phase : DispatchPhase} (h : phase.batch.filter Octets.holdFrame = []) :
      Sifts phase .idle
  | collecting {batch batch' : List Octets} (h : batch.filter Octets.holdFrame = batch')
      (hne : batch' ≠ []) : Sifts (.collecting batch) (.collecting batch')
  | handling {batch batch' : List Octets} (time : Nat)
      (h : batch.filter Octets.holdFrame = batch') :
      Sifts (.handling time batch) (.handling time batch')

lemma Sifts.eq_idle {phase : DispatchPhase} (h : DispatchPhase.idle.Sifts phase) :
    phase = .idle := by
  cases h
  rfl

end DispatchPhase

/-- What is left of what an engine holds when octets without a frame are taken out. -/
structure Sieved (held held' : DispatchPhase × List Octets) : Prop where
  phase : held.1.Sifts held'.1
  queue : held.2.filter Octets.holdFrame = held'.2

namespace Sieved

open DispatchPhase

variable {phase phase' : DispatchPhase} {queue queue' : List Octets}

/-- Only a frame wakes the second activity. -/
lemma wake (h : Sieved (phase, queue) (phase', queue')) :
    Sieved (phase.wake queue) (phase', queue') ∨
      Sieved (phase.wake queue) (phase'.wake queue') := by
  obtain ⟨hp, hq⟩ := h
  dsimp only at hp hq
  cases phase with
  | idle =>
    cases queue with
    | nil => exact .inl ⟨hp, hq⟩
    | cons xs rest =>
      cases hp.eq_idle
      by_cases hx : xs.holdFrame = true
      · rw [List.filter_cons_of_pos hx] at hq
        rw [← hq]
        exact .inr ⟨.collecting (List.filter_cons_of_pos hx) (List.cons_ne_nil xs []), rfl⟩
      · rw [List.filter_cons_of_neg hx] at hq
        exact .inl ⟨.asleep (List.filter_cons_of_neg hx), hq⟩
  | collecting batch => exact .inl ⟨hp, hq⟩
  | handling time batch => exact .inl ⟨hp, hq⟩

/-- The first frame of a batch wakes the second activity, which then takes the others. -/
lemma drain (h : Sieved (phase, queue) (phase', queue')) (now : Nat) :
    Sieved (phase.drain now queue) (phase', queue') ∨
      Sieved (phase.drain now queue) (phase'.wake queue') ∨
      Sieved (phase.drain now queue) (phase'.drain now queue') := by
  obtain ⟨hp, hq⟩ := h
  dsimp only at hp hq
  cases phase with
  | idle => exact .inl ⟨hp, hq⟩
  | handling time batch => exact .inl ⟨hp, hq⟩
  | collecting batch =>
    cases queue with
    | nil =>
      cases hq
      cases hp with
      | asleep hb => exact .inl ⟨.asleep hb, rfl⟩
      | collecting hb hne => exact .inr (.inr ⟨.handling now hb, rfl⟩)
    | cons xs rest =>
      by_cases hx : xs.holdFrame = true
      · rw [List.filter_cons_of_pos hx] at hq
        have hone : [xs].filter Octets.holdFrame = [xs] := List.filter_cons_of_pos hx
        rw [← hq]
        -- The second activity sleeps if this is the first frame of the batch, and wakes for it.
        cases hp with
        | asleep hb =>
          refine .inr (.inl ⟨.collecting ?_ (List.cons_ne_nil xs []), rfl⟩)
          rw [List.filter_append, hone]
          exact congrArg (· ++ [xs]) hb
        | collecting hb hne =>
          refine .inr (.inr ⟨.collecting ?_ (by simp), rfl⟩)
          rw [List.filter_append, hone, hb]
      · rw [List.filter_cons_of_neg hx] at hq
        have hnone : (batch ++ [xs]).filter Octets.holdFrame = batch.filter Octets.holdFrame := by
          rw [List.filter_append, List.filter_cons_of_neg hx]
          exact List.append_nil _
        cases hp with
        | asleep hb => exact .inl ⟨.asleep (hnone.trans hb), hq⟩
        | collecting hb hne => exact .inl ⟨.collecting (hnone.trans hb) hne, hq⟩

end Sieved

/-- The second activity decodes the same, except what holds no frame. -/
lemma DispatchPhase.Sifts.handle {phase phase' : DispatchPhase} (h : phase.Sifts phase') :
    match phase.handle with
    | (some (time, xs), rest) =>
      if xs.holdFrame then ∃ rest', phase'.handle = (some (time, xs), rest') ∧ rest.Sifts rest'
      else rest.Sifts phase'
    | (none, rest) => ∃ rest', phase'.handle = (none, rest') ∧ rest.Sifts rest' := by
  rcases phase with _ | batch | ⟨time, _ | ⟨xs, batch⟩⟩
  · cases h.eq_idle
    exact ⟨_, rfl, h⟩
  · cases h with
    | asleep hb => exact ⟨_, rfl, .asleep hb⟩
    | collecting hb hne => exact ⟨_, rfl, .collecting hb hne⟩
  · cases h with
    | asleep hb => exact ⟨_, rfl, .asleep hb⟩
    | handling time hb =>
      cases hb
      exact ⟨_, rfl, .asleep rfl⟩
  · change if xs.holdFrame = true then _ else _
    by_cases hx : xs.holdFrame = true
    · rw [if_pos hx]
      cases h with
      | asleep hb =>
        change (xs :: batch).filter Octets.holdFrame = [] at hb
        rw [List.filter_cons_of_pos hx] at hb
        exact nomatch hb
      | handling time hb =>
        rw [List.filter_cons_of_pos hx] at hb
        cases hb
        exact ⟨_, rfl, .handling time rfl⟩
    · rw [if_neg hx]
      cases h with
      | asleep hb => exact .asleep ((List.filter_cons_of_neg hx).symm.trans hb)
      | handling time hb => exact .handling time ((List.filter_cons_of_neg hx).symm.trans hb)

namespace Engine

/-- An engine, and one which was spared octets without a frame. -/
def Sifted (e d : Engine) : Prop := ∃ held, Sieved (e.phase, e.queue) held ∧ d = e.holding held

/-- The events `evs'` bring the second engine what `evs` bring the first one, except octets without
a frame, and show the same otherwise. -/
structure Follows (e d : Engine) (evs evs' : List Event) : Prop where
  sifted : (e.run evs).1.Sifted (d.run evs').1
  octets : evs'.filterMap Event.octets? = (evs.filterMap Event.octets?).filter Octets.holdFrame
  reports : (d.run evs').2.filter Report.isLoud = (e.run evs).2.filter Report.isLoud

lemma run_append (e : Engine) (evs evs' : List Event) :
    e.run (evs ++ evs') =
      (((e.run evs).1.run evs').1, (e.run evs).2 ++ ((e.run evs).1.run evs').2) := by
  induction evs generalizing e with
  | nil => rfl
  | cons ev evs ih =>
    change (((e.step ev).1.run (evs ++ evs')).1,
      (e.step ev).2 :: ((e.step ev).1.run (evs ++ evs')).2) = _
    rw [ih]
    rfl

namespace Follows

variable {e d : Engine} {ev : Event}

lemma append {evs evs' more more' : List Event} (h : e.Follows d evs evs')
    (hmore : (e.run evs).1.Follows (d.run evs').1 more more') :
    e.Follows d (evs ++ more) (evs' ++ more') := by
  refine ⟨?_, ?_, ?_⟩
  · rw [run_append, run_append]
    exact hmore.sifted
  · rw [List.filterMap_append, List.filterMap_append, List.filter_append, h.octets, hmore.octets]
  · rw [run_append, run_append, List.filter_append, List.filter_append, h.reports, hmore.reports]

/-- An event that shows nothing of a frame is left out. -/
lemma skip (hs : (e.step ev).1.Sifted d) (hr : (e.step ev).2.isLoud = false)
    (ho : ev.octets?.toList.filter Octets.holdFrame = []) : e.Follows d [ev] [] := by
  refine ⟨hs, ?_, ?_⟩
  · rw [filterMap_cons_append, List.filter_append, ho]
    rfl
  · change [] = [(e.step ev).2].filter Report.isLoud
    rw [List.filter_cons_of_neg (by rw [hr]; exact Bool.false_ne_true)]
    rfl

/-- An event is followed by one that brings and shows the same. -/
lemma same {ev' : Event} (hs : (e.step ev).1.Sifted (d.step ev').1)
    (hr : (d.step ev').2 = (e.step ev).2) (ho : ev'.octets? = ev.octets?)
    (hgood : ev.octets?.toList.filter Octets.holdFrame = ev.octets?.toList) :
    e.Follows d [ev] [ev'] := by
  refine ⟨hs, ?_, ?_⟩
  · rw [filterMap_cons_append, filterMap_cons_append, List.filter_append, hgood, ho]
    rfl
  · exact congrArg (fun r => List.filter _ [r]) hr

end Follows

lemma dispatch_of_not_holdFrame (e : Engine) (time : Nat) {xs : Octets}
    (h : xs.holdFrame = false) : ∃ result, e.dispatch time xs = (e, .decoded xs result) := by
  have hx := Frame.octets_of_decode xs
  unfold dispatch
  cases hd : (Frame.decode xs).1 with
  | error cause => exact ⟨_, rfl⟩
  | ok received =>
    cases received with
    | none => exact ⟨_, rfl⟩
    | some f =>
      rw [hd, h] at hx
      exact absurd hx.1 Bool.false_ne_true

/-- A read that brings nothing changes nothing. -/
lemma step_empty (e : Engine) {result : Read}
    (h : result = .nothing ∨ ∃ cause, result = .failed cause) :
    e.step (.read result) = (e, .quiet) := by
  unfold step
  rcases h with rfl | ⟨cause, rfl⟩ <;> dsimp only <;> split <;> rfl

lemma sifted_of_spares {e e' : Engine} (hs : e.Spares e') {held : DispatchPhase × List Octets}
    (h : Sieved (e.phase, e.queue) held) : e'.Sifted (e'.holding held) := by
  refine ⟨held, ?_, rfl⟩
  rw [hs.phase, hs.queue]
  exact h

section Follow

variable {e : Engine} {held : DispatchPhase × List Octets}
variable (h : Sieved (e.phase, e.queue) held)

include h

lemma follow_read_frame (xs : Octets) :
    ∃ evs', e.Follows (e.holding held) [.read (.frame xs)] evs' := by
  by_cases hlive : Activity.receive ∈ e.live
  · have hs : e.step (.read (.frame xs)) = ({ e with queue := e.queue ++ [xs] }, .obtained xs) :=
      if_neg (not_not_intro hlive)
    by_cases hx : xs.holdFrame = true
    · have hone : [xs].filter Octets.holdFrame = [xs] := List.filter_cons_of_pos hx
      have hs' : (e.holding held).step (.read (.frame xs)) =
          (e.holding (held.1, held.2 ++ [xs]), .obtained xs) := if_neg (not_not_intro hlive)
      refine ⟨[.read (.frame xs)], .same ?_ ?_ rfl hone⟩ <;> rw [hs, hs']
      refine ⟨(held.1, held.2 ++ [xs]), ⟨h.phase, ?_⟩, rfl⟩
      rw [List.filter_append, hone]
      exact congrArg (· ++ [xs]) h.queue
    · have hnone : [xs].filter Octets.holdFrame = [] := List.filter_cons_of_neg hx
      refine ⟨[], .skip ?_ ?_ hnone⟩ <;> rw [hs]
      · refine ⟨held, ⟨h.phase, ?_⟩, rfl⟩
        rw [List.filter_append, hnone, List.append_nil]
        exact h.queue
      · exact Bool.eq_false_iff.2 hx
  · have hs : e.step (.read (.frame xs)) = (e, .quiet) := if_pos hlive
    have hs' : (e.holding held).step (.read (.frame xs)) = (e.holding held, .quiet) := if_pos hlive
    by_cases hx : xs.holdFrame = true
    · refine ⟨[.read (.frame xs)], .same ?_ ?_ rfl (List.filter_cons_of_pos hx)⟩ <;> rw [hs, hs']
      exact ⟨held, h, rfl⟩
    · refine ⟨[], .skip ?_ ?_ (List.filter_cons_of_neg hx)⟩ <;> rw [hs]
      · exact ⟨held, h, rfl⟩
      · rfl

lemma follow_crash : ∃ evs', e.Follows (e.holding held) [.read .crashed] evs' := by
  by_cases hlive : Activity.receive ∈ e.live
  · have hs : e.step (.read .crashed) = (e.fail .receive, .quiet) := if_neg (not_not_intro hlive)
    have hs' : (e.holding held).step (.read .crashed) = ((e.fail .receive).holding held, .quiet) :=
      if_neg (not_not_intro hlive)
    refine ⟨[.read .crashed], .same ?_ ?_ rfl rfl⟩ <;> rw [hs, hs']
    exact ⟨held, h, rfl⟩
  · have hs : e.step (.read .crashed) = (e, .quiet) := if_pos hlive
    refine ⟨[], .skip ?_ ?_ rfl⟩ <;> rw [hs]
    · exact ⟨held, h, rfl⟩
    · rfl

lemma follow_empty {result : Read} (hr : result = .nothing ∨ ∃ cause, result = .failed cause) :
    ∃ evs', e.Follows (e.holding held) [.read result] evs' := by
  have ho : (Event.read result).octets? = none := by
    rcases hr with rfl | ⟨cause, rfl⟩ <;> rfl
  refine ⟨[], .skip ?_ ?_ (by rw [ho]; rfl)⟩ <;> rw [e.step_empty hr]
  · exact ⟨held, h, rfl⟩
  · rfl

lemma follow_wake : ∃ evs', e.Follows (e.holding held) [.wake] evs' := by
  have hw : Sieved e.woken held ∨ Sieved e.woken (e.holding held).woken := by
    unfold woken
    by_cases hlive : Activity.dispatch ∈ e.live
    · have hlive' : Activity.dispatch ∈ (e.holding held).live := hlive
      rw [if_pos hlive, if_pos hlive']
      exact h.wake
    · rw [if_neg hlive]
      exact .inl h
  rcases hw with hw | hw
  · refine ⟨[], .skip ?_ ?_ rfl⟩ <;> rw [step_wake]
    · exact ⟨held, hw, rfl⟩
    · rfl
  · refine ⟨[.wake], .same ?_ ?_ rfl rfl⟩ <;> rw [step_wake, step_wake]
    exact ⟨_, hw, rfl⟩

lemma follow_drain : ∃ evs', e.Follows (e.holding held) [.drain] evs' := by
  have hw : Sieved e.drained held ∨ Sieved e.drained (e.holding held).woken ∨
      Sieved e.drained (e.holding held).drained := by
    unfold woken drained
    by_cases hlive : Activity.dispatch ∈ e.live
    · have hlive' : Activity.dispatch ∈ (e.holding held).live := hlive
      rw [if_pos hlive, if_pos hlive', if_pos hlive']
      exact h.drain e.now
    · rw [if_neg hlive]
      exact .inl h
  rcases hw with hw | hw | hw
  · refine ⟨[], .skip ?_ ?_ rfl⟩ <;> rw [step_drain]
    · exact ⟨held, hw, rfl⟩
    · rfl
  · refine ⟨[.wake], .same ?_ ?_ rfl rfl⟩ <;> rw [step_drain, step_wake]
    exact ⟨_, hw, rfl⟩
  · refine ⟨[.drain], .same ?_ ?_ rfl rfl⟩ <;> rw [step_drain, step_drain]
    exact ⟨_, hw, rfl⟩

lemma follow_handle : ∃ evs', e.Follows (e.holding held) [.handle] evs' := by
  have hn : match e.upNext with
      | (some (time, xs), rest) =>
        if xs.holdFrame then
          ∃ rest', (e.holding held).upNext = (some (time, xs), rest') ∧ rest.Sifts rest'
        else rest.Sifts held.1
      | (none, rest) => ∃ rest', (e.holding held).upNext = (none, rest') ∧ rest.Sifts rest' := by
    unfold upNext
    by_cases hlive : Activity.dispatch ∈ e.live
    · have hlive' : Activity.dispatch ∈ (e.holding held).live := hlive
      rw [if_pos hlive, if_pos hlive']
      exact h.phase.handle
    · have hlive' : Activity.dispatch ∉ (e.holding held).live := hlive
      rw [if_neg hlive, if_neg hlive']
      exact ⟨held.1, rfl, h.phase⟩
  rcases hx : e.upNext with ⟨_ | ⟨time, xs⟩, rest⟩
  · rw [hx] at hn
    obtain ⟨rest', hx', hp⟩ := hn
    refine ⟨[.handle], .same ?_ ?_ rfl rfl⟩ <;> rw [step_handle, step_handle, hx, hx']
    exact ⟨(rest', held.2), ⟨hp, h.queue⟩, rfl⟩
  · rw [hx] at hn
    dsimp only at hn
    let d : Engine := { e with phase := rest }
    by_cases hgood : xs.holdFrame = true
    · rw [if_pos hgood] at hn
      obtain ⟨rest', hx', hp⟩ := hn
      have hs : (e.holding held).step .handle = (d.holding (rest', held.2)).dispatch time xs := by
        rw [step_handle, hx']
        rfl
      refine ⟨[.handle], .same ?_ ?_ rfl rfl⟩ <;> rw [hs, step_handle, hx, dispatch_holding]
      exact sifted_of_spares (d.spares_dispatch time xs) ⟨hp, h.queue⟩
    · rw [if_neg hgood] at hn
      obtain ⟨result, hd⟩ := d.dispatch_of_not_holdFrame time (Bool.eq_false_iff.2 hgood)
      have hs : e.step .handle = (d, .decoded xs result) := by
        rw [step_handle, hx]
        exact hd
      refine ⟨[], .skip ?_ ?_ rfl⟩ <;> rw [hs]
      · exact ⟨held, ⟨hn, h.queue⟩, rfl⟩
      · exact Bool.eq_false_iff.2 hgood

lemma follow_tick : ∃ evs', e.Follows (e.holding held) [.tick] evs' := by
  by_cases hidle : Activity.scheduler ∉ e.live ∨ e.now < e.due
  · have hs : e.step .tick = (e, .quiet) := if_pos hidle
    refine ⟨[], .skip ?_ ?_ rfl⟩ <;> rw [hs]
    · exact ⟨held, h, rfl⟩
    · rfl
  · have hs : e.step .tick = e.runSchedule := if_neg hidle
    have hs' : (e.holding held).step .tick = (e.holding held).runSchedule := if_neg hidle
    refine ⟨[.tick], .same ?_ ?_ rfl rfl⟩ <;> rw [hs, hs', runSchedule_holding]
    exact sifted_of_spares e.spares_runSchedule h

lemma follow_linktrace (target : MacAddress) (ttl : Option UInt8) :
    ∃ evs', e.Follows (e.holding held) [.linktrace target ttl] evs' := by
  have hs : (e.holding held).step (.linktrace target ttl) =
      ((e.trace target ttl).1.holding held, .traced (e.trace target ttl).2) := by
    change (((e.holding held).trace target ttl).1,
      Report.traced ((e.holding held).trace target ttl).2) = _
    rw [trace_holding]
  have ht : e.trace target ttl = _ := e.trace_holding (e.phase, e.queue) target ttl
  refine ⟨[.linktrace target ttl], .same ?_ ?_ rfl rfl⟩
  · rw [hs]
    refine ⟨held, ?_, rfl⟩
    change Sieved ((e.trace target ttl).1.phase, (e.trace target ttl).1.queue) held
    rw [ht]
    exact h
  · rw [hs]
    rfl

/-- The second activity is idle whenever the first one is, and may leave just as well. -/
lemma follow_leave (a : Activity) : ∃ evs', e.Follows (e.holding held) [.leave a] evs' := by
  by_cases hstays : (!e.cancelled || (a = .dispatch && e.phase ≠ .idle)) = true
  · have hs : e.step (.leave a) = (e, .quiet) := if_pos hstays
    refine ⟨[], .skip ?_ ?_ rfl⟩ <;> rw [hs]
    · exact ⟨held, h, rfl⟩
    · rfl
  · have hs : e.step (.leave a) = (e.stop a, .quiet) := if_neg hstays
    have hidle : e.phase = .idle → held.1 = .idle := fun hp => (hp ▸ h.phase).eq_idle
    have hstays' : ¬(!e.cancelled || (a = .dispatch && held.1 ≠ .idle)) = true := by
      simp only [Bool.or_eq_true, Bool.and_eq_true, decide_eq_true_eq] at hstays ⊢
      exact fun hor => hstays (hor.imp_right fun ha => ⟨ha.1, fun hp => ha.2 (hidle hp)⟩)
    have hs' : (e.holding held).step (.leave a) = ((e.stop a).holding held, .quiet) :=
      if_neg hstays'
    refine ⟨[.leave a], .same ?_ ?_ rfl rfl⟩ <;> rw [hs, hs']
    exact ⟨held, h, rfl⟩

end Follow

/-- One event is followed by at most one. -/
theorem Sifted.step {e d : Engine} (h : e.Sifted d) (ev : Event) :
    ∃ evs', e.Follows d [ev] evs' := by
  obtain ⟨held, h, rfl⟩ := h
  cases ev with
  | read result =>
    cases result with
    | frame xs => exact follow_read_frame h xs
    | nothing => exact follow_empty h (.inl rfl)
    | failed cause => exact follow_empty h (.inr ⟨cause, rfl⟩)
    | crashed => exact follow_crash h
  | wake => exact follow_wake h
  | drain => exact follow_drain h
  | handle => exact follow_handle h
  | tick => exact follow_tick h
  | elapse millis => exact ⟨[.elapse millis], .same ⟨held, h, rfl⟩ rfl rfl rfl⟩
  | linktrace target ttl => exact follow_linktrace h target ttl
  | cancel => exact ⟨[.cancel], .same ⟨held, h, rfl⟩ rfl rfl rfl⟩
  | leave a => exact follow_leave h a

theorem Sifted.run {e d : Engine} (h : e.Sifted d) (evs : List Event) :
    ∃ evs', e.Follows d evs evs' := by
  induction evs generalizing e d with
  | nil => exact ⟨[], h, rfl, rfl⟩
  | cons ev evs ih =>
    obtain ⟨first, hfirst⟩ := h.step ev
    obtain ⟨rest, hrest⟩ := ih hfirst.sifted
    exact ⟨first ++ rest, hfirst.append hrest⟩

end Engine

namespace Pair

end Pair

end RingContinuity
