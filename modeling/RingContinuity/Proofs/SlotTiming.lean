import RingContinuity.Proofs.Network
import RingContinuity.Proofs.OutstandingRequests
import RingContinuity.Proofs.SlotCadence

/-!
# Slot timing

When the slots of a node elapse. Each is due one interval after the one before was, so that they do
not drift while the ticks are in time. After a tick that comes a whole interval late the next slot
is due one interval after that tick, so that the slots that were missed are not made up for.
-/

namespace RingContinuity

/-- A slot that has elapsed: when it was due, and the time of the tick that it elapsed in. -/
structure ElapsedSlot where
  due : Nat
  time : Nat
  deriving DecidableEq

def NodeEvent.tickTime? : NodeEvent → Option Nat
  | .tick now => some now
  | _ => none

lemma NodeEvent.eq_tick {ev : NodeEvent} {now : Nat} (h : ev.tickTime? = some now) :
    ev = .tick now := by
  cases ev with
  | tick now => rw [Option.some.inj h]
  | receive f now => exact nomatch h
  | linktrace target ttl now => exact nomatch h
  | note entry => exact nomatch h
  | draw => exact nomatch h
  | reseed ids => exact nomatch h

/-- The times of the ticks in a run, in order. -/
def tickTimes (evs : List NodeEvent) : List Nat := evs.filterMap NodeEvent.tickTime?

/-- The slot that elapses in an event, if one does. -/
def Node.elapsedSlot (n : Node) : NodeEvent → List ElapsedSlot
  | .tick now => if (n.tick now).2.slot then [⟨n.schedule.nextSlot, now⟩] else []
  | _ => []

/-- The slots that elapse in a run, in order. -/
def WiredNode.elapsed (h : WiredNode) (evs : List NodeEvent) : List ElapsedSlot :=
  h.collected Node.elapsedSlot evs

/-! ### One event -/

namespace Node

lemma slot_tick (n : Node) (now : Nat) :
    (n.tick now).2.slot = decide (n.schedule.nextSlot ≤ now) := by
  change (n.runSlot now).2.1 = _
  unfold runSlot
  by_cases hd : now < n.schedule.nextSlot
  · rw [if_pos hd, decide_eq_false (Nat.not_le.2 hd)]
  · rw [if_neg hd, decide_eq_true (Nat.not_lt.1 hd)]

/-- The schedule goes by the ticks alone. -/
lemma schedule_turn {ev : NodeEvent} (h : ev.tickTime? = none) (n : Node) :
    (n.turn ev).1.schedule = n.schedule := by
  cases ev with
  | tick now => exact nomatch h
  | linktrace target ttl now =>
    unfold turn linktrace Station.linktrace
    dsimp only [Station.drawId]
    cases Linktrace.buildRequest n.station.config n.station.own target n.station.ids.draw.1
      (ttl.getD Linktrace.defaultTtl) <;> rfl
  | receive f now => rfl
  | note entry => rfl
  | draw => rfl
  | reseed ids => rfl

end Node

/-! ### Runs -/

/-- Where a schedule stands that started at `start`, after ticks at `ticks` in which `slots` have
elapsed. -/
structure Timed (start period : Nat) (ticks : List Nat) (slots : List ElapsedSlot)
    (nextSlot : Nat) : Prop where
  le_nextSlot : start + slots.length * period ≤ nextSlot
  ticks_lt : ∀ t ∈ ticks, t < nextSlot
  nextSlot_le : nextSlot = start ∨ ∃ t ∈ ticks, nextSlot ≤ t + period
  eq_of_punctual : (∀ x ∈ slots, x.time < x.due + period) →
    nextSlot = start + slots.length * period
  countP_le : ∀ T, start ≤ T → slots.countP (·.time ≤ T) ≤ (T - start) / period + 1

namespace Timed

variable {start period nextSlot now : Nat} {ticks : List Nat} {slots : List ElapsedSlot}

lemma new (start period : Nat) : Timed start period [] [] start where
  le_nextSlot := by rw [List.length_nil]; omega
  ticks_lt := nofun
  nextSlot_le := .inl rfl
  eq_of_punctual _ := by rw [List.length_nil]; omega
  countP_le _ _ := Nat.zero_le _

lemma early (h : Timed start period ticks slots nextSlot) (hn : now < nextSlot) :
    Timed start period (ticks ++ [now]) slots nextSlot where
  le_nextSlot := h.le_nextSlot
  ticks_lt := by
    intro t ht
    rcases List.mem_append.1 ht with ht | ht
    · exact h.ticks_lt t ht
    · rw [List.mem_singleton.1 ht]
      exact hn
  nextSlot_le := h.nextSlot_le.imp_right fun ⟨t, ht, hle⟩ =>
    ⟨t, List.mem_append_left _ ht, hle⟩
  eq_of_punctual := h.eq_of_punctual
  countP_le := h.countP_le

/-- The slot that elapses is never early, so that there is room for one more up to any later
time. -/
lemma due (h : Timed start period ticks slots nextSlot) (hp : 0 < period) (hn : nextSlot ≤ now) :
    Timed start period (ticks ++ [now]) (slots ++ [⟨nextSlot, now⟩])
      (if nextSlot + period ≤ now then now + period else nextSlot + period) := by
  have hle := h.le_nextSlot
  have hlen : (slots ++ [(⟨nextSlot, now⟩ : ElapsedSlot)]).length * period =
      slots.length * period + period := by
    rw [List.length_append, List.length_singleton, Nat.succ_mul]
  refine ⟨?_, ?_, ?_, ?_, ?_⟩
  · rw [hlen]
    split <;> omega
  · intro t ht
    rcases List.mem_append.1 ht with ht | ht
    · have := h.ticks_lt t ht
      split <;> omega
    · rw [List.mem_singleton.1 ht]
      split <;> omega
  · refine .inr ⟨now, List.mem_append_right _ (List.mem_singleton_self now), ?_⟩
    split <;> omega
  · intro hpunctual
    have hlast : now < nextSlot + period :=
      hpunctual ⟨nextSlot, now⟩ (List.mem_append_right _ (List.mem_singleton_self _))
    have hnext := h.eq_of_punctual fun x hx => hpunctual x (List.mem_append_left _ hx)
    rw [if_neg (Nat.not_le.2 hlast), hlen, hnext, Nat.add_assoc]
  · intro T hT
    rw [List.countP_append, List.countP_singleton]
    -- A slot that has elapsed by `T` was due by `T`, and all slots before it were due earlier still.
    by_cases hnow : now ≤ T
    · have hroom : slots.length ≤ (T - start) / period :=
        (Nat.le_div_iff_mul_le hp).2 (by omega)
      have hall : slots.countP (·.time ≤ T) ≤ slots.length := List.countP_le_length
      rw [if_pos (decide_eq_true hnow)]
      omega
    · rw [if_neg (by simpa using hnow)]
      exact h.countP_le T hT

/-- When no tick came after the last one, it is the last one that bounds the next slot. -/
lemma nextSlot_le_max (h : Timed start period (ticks ++ [now]) slots nextSlot)
    (hmono : (ticks ++ [now]).Pairwise (· ≤ ·)) : nextSlot ≤ max start (now + period) := by
  rcases h.nextSlot_le with hfirst | ⟨t, ht, hle⟩
  · rw [hfirst]
    exact Nat.le_max_left ..
  · have hnow : t ≤ now := by
      rcases List.mem_append.1 ht with ht | ht
      · exact (List.pairwise_append.1 hmono).2.2 t ht now (List.mem_singleton_self now)
      · exact Nat.le_of_eq (List.mem_singleton.1 ht)
    omega

end Timed

namespace Node

lemma elapsedSlot_tick (n : Node) (now : Nat) : n.elapsedSlot (.tick now) =
    if n.schedule.nextSlot ≤ now then [⟨n.schedule.nextSlot, now⟩] else [] := by
  change (if (n.tick now).2.slot = true then _ else _) = _
  rw [slot_tick]
  exact if_congr decide_eq_true_iff rfl rfl

/-- The sequence number counts the slots that elapse. -/
lemma sequence_elapsedSlot (n : Node) (ev : NodeEvent) : (n.turn ev).1.schedule.sequence =
    n.schedule.sequence + UInt32.ofNat (n.elapsedSlot ev).length := by
  rw [sequence_turn]
  cases ev with
  | tick now =>
    rw [slot?_tick, elapsedSlot_tick]
    split <;> rfl
  | receive f now => rfl
  | linktrace target ttl now => rfl
  | note entry => rfl
  | draw => rfl
  | reseed ids => rfl

lemma elapsedSlot_other (n : Node) {ev : NodeEvent} (ht : ev.tickTime? = none) :
    n.elapsedSlot ev = [] := by
  cases ev with
  | tick now => exact nomatch ht
  | receive f now => rfl
  | linktrace target ttl now => rfl
  | note entry => rfl
  | draw => rfl
  | reseed ids => rfl

end Node

namespace WiredNode

theorem sequence_run (h : WiredNode) (evs : List NodeEvent) : (h.run evs).node.schedule.sequence =
    h.node.schedule.sequence + UInt32.ofNat (h.elapsed evs).length := by
  induction evs using List.reverseRecOn with
  | nil => exact (UInt32.add_zero _).symm
  | append_singleton evs ev ih =>
    unfold elapsed at *
    rw [run_append, collected_concat, List.length_append, UInt32.ofNat_add, ← UInt32.add_assoc,
      ← ih]
    exact Node.sequence_elapsedSlot _ ev

theorem timed_run (h : WiredNode) (evs : List NodeEvent) :
    Timed h.node.schedule.nextSlot h.node.station.config.interval.millis (tickTimes evs)
      (h.elapsed evs) (h.run evs).node.schedule.nextSlot := by
  induction evs using List.reverseRecOn with
  | nil => exact .new ..
  | append_singleton evs ev ih =>
    unfold tickTimes elapsed at *
    rw [run_append, collected_concat, List.filterMap_append]
    cases ht : ev.tickTime? with
    | none =>
      have hsame : ((h.run evs).run [ev]).node.schedule = (h.run evs).node.schedule :=
        Node.schedule_turn ht _
      rw [List.filterMap_cons_none ht, List.filterMap_nil, List.append_nil,
        Node.elapsedSlot_other _ ht, List.append_nil, hsame]
      exact ih
    | some now =>
      cases NodeEvent.eq_tick ht
      have hp : 0 < h.node.station.config.interval.millis := by
        cases h.node.station.config.interval <;> decide
      rw [List.filterMap_cons_some ht, List.filterMap_nil, Node.elapsedSlot_tick]
      change Timed _ _ _ _ ((h.run evs).node.runSlot now).1.schedule.nextSlot
      by_cases hd : (h.run evs).node.schedule.nextSlot ≤ now
      · rw [if_pos hd, (Node.runSlot_due hd).2.2, (h.kin_run evs).config]
        exact ih.due hp hd
      · rw [if_neg hd, List.append_nil, Node.runSlot_early (Nat.not_le.1 hd)]
        exact ih.early (Nat.not_le.1 hd)

end WiredNode

/-- The slots of a node that was created to start at `start` neither drift nor come in bursts. In a
run of ticks at times that never decrease, whatever happens in between and whatever the link says,
a tick elapses at most one slot, and leaves the next one due later than now, by one interval at
most unless the first one is still to come. The slot with the number `k` never elapses before
`start + k * period`, so that up to any time no more slots have elapsed than have come due, however
long the ticks failed to come. If every slot so far elapsed less than a period after it was due,
then the slot `k` elapses in the first tick at or after `start + k * period`. -/
theorem slot_timing {config : Config} {own : MacAddress} {ids : IdSource} {start : Nat} {n : Node}
    (hn : Node.create config own ids start = .ok n) (w : Wire) (before : List NodeEvent) (now : Nat)
    (hmono : (tickTimes before ++ [now]).Pairwise (· ≤ ·)) :
    let first : WiredNode := ⟨n, w⟩
    let h := first.run before
    let h' := (h.step (.tick now)).1
    let period := config.interval.millis
    let k := (first.elapsed before).length
    let slot := (h.node.tick now).2.slot
    h'.node.schedule.sequence = h.node.schedule.sequence + (if slot then 1 else 0) ∧
    (now < h'.node.schedule.nextSlot ∧ h'.node.schedule.nextSlot ≤ max start (now + period)) ∧
    (slot = true → start + k * period ≤ now) ∧
    (∀ T, start ≤ T → (first.elapsed (before ++ [.tick now])).countP (·.time ≤ T) ≤
      (T - start) / period + 1) ∧
    ((∀ x ∈ first.elapsed before, x.time < x.due + period) →
      (slot = true ↔ start + k * period ≤ now) ∧
        ∀ t ∈ tickTimes before, t < start + k * period) := by
  intro first h h' period k slot
  obtain ⟨tag, -, -, hstation, -, hstart⟩ := Node.of_create own ids start hn
  have hperiod : n.station.config.interval.millis = period := by rw [hstation]; rfl
  have htimed : ∀ evs, Timed start period (tickTimes evs) (first.elapsed evs)
      (first.run evs).node.schedule.nextSlot := by
    intro evs
    rw [← hstart, ← hperiod]
    exact first.timed_run evs
  have hbefore := htimed before
  have hafter := htimed (before ++ [.tick now])
  have hrun : (first.run (before ++ [.tick now])).node = h'.node := by
    rw [WiredNode.run_append]
    rfl
  have hticks : tickTimes (before ++ [.tick now]) = tickTimes before ++ [now] :=
    List.filterMap_append
  rw [hrun, hticks] at hafter
  have hslot : slot = true ↔ h.node.schedule.nextSlot ≤ now := by
    rw [show slot = decide (h.node.schedule.nextSlot ≤ now) from Node.slot_tick ..]
    exact decide_eq_true_iff
  refine ⟨?_, ⟨?_, ?_⟩, ?_, hafter.countP_le, ?_⟩
  · refine (h.node.sequence_elapsedSlot (.tick now)).trans (congrArg _ ?_)
    change UInt32.ofNat (if (h.node.tick now).2.slot = true then _ else _ : List _).length =
      if (h.node.tick now).2.slot = true then 1 else 0
    split <;> rfl
  · exact hafter.ticks_lt now (List.mem_append_right _ (List.mem_singleton_self now))
  · exact hafter.nextSlot_le_max hmono
  · intro hs
    exact Nat.le_trans hbefore.le_nextSlot (hslot.1 hs)
  · intro hpunctual
    have hnext := hbefore.eq_of_punctual hpunctual
    rw [hslot, ← hnext]
    exact ⟨Iff.rfl, hbefore.ticks_lt⟩

/-- After two slots in time a tick comes two intervals late. The third slot elapses in it, and the
next one is not due before another interval has gone by. -/
theorem slot_timing_stall :
    let first : WiredNode := ⟨Pair.node false, { verdict := fun _ _ => .ok () }⟩
    let before : List NodeEvent := [.tick 0, .tick 1020]
    let h := first.run before
    Node.create (Pair.config false) (Pair.address false) ⟨fun _ => 7, 0⟩ 0 = .ok (Pair.node false) ∧
    (tickTimes before ++ [4000]).Pairwise (· ≤ ·) ∧
    first.elapsed before = [⟨0, 0⟩, ⟨1000, 1020⟩] ∧
    (h.node.tick 4000).2.slot = true ∧
    4000 < (h.step (.tick 4000)).1.node.schedule.nextSlot ∧
    (h.step (.tick 4000)).1.node.schedule.nextSlot ≤ 5000 ∧
    (first.elapsed (before ++ [.tick 4000])).countP (·.time ≤ 3999) ≤ 4 := by
  have helapsed : (WiredNode.mk (Pair.node false) { verdict := fun _ _ => .ok () }).elapsed
      [.tick 0, .tick 1020] = [⟨0, 0⟩, ⟨1000, 1020⟩] := by decide +kernel
  obtain ⟨-, ⟨hlt, hle⟩, -, hcount, hfirst⟩ := slot_timing (Pair.create_eq false)
    { verdict := fun _ _ => .ok () } [.tick 0, .tick 1020] 4000 (by decide)
  rw [helapsed] at hfirst
  have hslot := (hfirst (by decide)).1
  exact ⟨Pair.create_eq false, by decide, helapsed, hslot.2 (by decide), hlt, hle,
    hcount 3999 (by decide)⟩

end RingContinuity
