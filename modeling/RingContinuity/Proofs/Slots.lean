import RingContinuity.Proofs.NodeRun

/-!
# Slots

What a slot sends and when the next one is due, whatever happens between the ticks. A `Cadence` says
how far a schedule can be from its last transmission; it survives every tick that comes soon enough
after the one before, and the wrap of the sequence number only shortens it.
-/

namespace RingContinuity

/-! ### What never changes -/

namespace Node

/-- A node and what has become of it: the configuration and the templates are still the same. -/
structure Kin (n n' : Node) : Prop where
  config : n'.station.config = n.station.config
  own : n'.station.own = n.station.own
  ccm : n'.schedule.ccm = n.schedule.ccm
  lbm : n'.schedule.lbm = n.schedule.lbm
  signalFail : n'.schedule.signalFail = n.schedule.signalFail

lemma Kin.refl (n : Node) : n.Kin n := ⟨rfl, rfl, rfl, rfl, rfl⟩

lemma Kin.trans {n n' n'' : Node} (h : n.Kin n') (h' : n'.Kin n'') : n.Kin n'' :=
  ⟨h'.config.trans h.config, h'.own.trans h.own, h'.ccm.trans h.ccm, h'.lbm.trans h.lbm,
    h'.signalFail.trans h.signalFail⟩

lemma kin_transmit (n : Node) : n.Kin n.transmit.1 := by
  unfold transmit
  cases n.stampedLbm? <;> exact ⟨rfl, rfl, rfl, rfl, rfl⟩

lemma kin_runSlot (n : Node) (now : Nat) : n.Kin (n.runSlot now).1 := by
  unfold runSlot
  by_cases hd : now < n.schedule.nextSlot
  · rw [if_pos hd]
    exact Kin.refl n
  · rw [if_neg hd]
    by_cases hk : n.schedule.transmits n.station.config.skips = true
    · rw [if_pos hk]
      have h := kin_transmit n
      exact ⟨h.config, h.own, h.ccm, h.lbm, h.signalFail⟩
    · rw [if_neg hk]
      exact ⟨rfl, rfl, rfl, rfl, rfl⟩

lemma kin_tick (n : Node) (now : Nat) : n.Kin (n.tick now).1 := by
  have h := n.kin_runSlot now
  exact ⟨h.config, h.own, h.ccm, h.lbm, h.signalFail⟩

lemma kin_dispatch (n : Node) (f : Frame) (now : Nat) : n.Kin (n.dispatch f now).1 := by
  by_cases hf : Station.IsCcm f
  · rw [dispatch_ccm hf]
    exact ⟨rfl, rfl, rfl, rfl, rfl⟩
  · obtain ⟨o, r, -, hd⟩ := Station.dispatch_other hf n.station now
    have hn := hd n.station.meps
    rw [Station.withMeps_meps] at hn
    unfold dispatch
    rw [hn]
    exact ⟨rfl, rfl, rfl, rfl, rfl⟩

theorem kin_turn (n : Node) (ev : NodeEvent) : n.Kin (n.turn ev).1 := by
  cases ev with
  | tick now => exact n.kin_tick now
  | receive f now => exact n.kin_dispatch f now
  | linktrace target ttl now =>
    unfold turn linktrace Station.linktrace
    dsimp only [Station.drawId]
    cases Linktrace.buildRequest n.station.config n.station.own target n.station.ids.draw.1
      (ttl.getD Linktrace.defaultTtl) <;> exact ⟨rfl, rfl, rfl, rfl, rfl⟩
  | note entry => exact ⟨rfl, rfl, rfl, rfl, rfl⟩
  | draw => exact ⟨rfl, rfl, rfl, rfl, rfl⟩
  | reseed ids => exact ⟨rfl, rfl, rfl, rfl, rfl⟩

/-! ### One slot -/

lemma runSlot_early {n : Node} {now : Nat} (h : now < n.schedule.nextSlot) :
    n.runSlot now = (n, false, []) := by
  unfold runSlot
  rw [if_pos h]

/-- What a slot offers and what it does to the schedule. -/
theorem runSlot_due {n : Node} {now : Nat} (h : n.schedule.nextSlot ≤ now) :
    (n.runSlot now).2.2 = (if n.schedule.transmits n.station.config.skips then
      n.stampedCcm?.toList ++ n.stampedLbm?.toList else []) ∧
    (n.runSlot now).1.schedule.sequence = n.schedule.sequence + 1 ∧
    (n.runSlot now).1.schedule.nextSlot =
      if n.schedule.nextSlot + n.station.config.interval.millis ≤ now then
        now + n.station.config.interval.millis
      else n.schedule.nextSlot + n.station.config.interval.millis := by
  unfold runSlot
  rw [if_neg (Nat.not_lt.2 h)]
  by_cases hk : n.schedule.transmits n.station.config.skips = true
  · rw [if_pos hk, if_pos hk]
    unfold transmit
    cases hl : n.stampedLbm? with
    | none => exact ⟨(List.append_nil _).symm, rfl, rfl⟩
    | some lbm => exact ⟨rfl, rfl, rfl⟩
  · rw [if_neg hk, if_neg hk]
    exact ⟨rfl, rfl, rfl⟩

lemma mem_runSlot {n : Node} {now : Nat} {f : Frame} (hf : f ∈ (n.runSlot now).2.2) :
    n.stampedCcm? = some f ∨ n.stampedLbm? = some f := by
  by_cases hd : now < n.schedule.nextSlot
  · rw [runSlot_early hd] at hf
    exact nomatch hf
  · rw [(runSlot_due (Nat.not_lt.1 hd)).1] at hf
    split at hf
    · rw [List.mem_append, Option.mem_toList, Option.mem_toList] at hf
      exact hf
    · exact nomatch hf

/-- A tick offers the frames of the slot and behind them one report, if it found a loss. -/
theorem offered_tick (n : Node) (now : Nat) : (n.tick now).2.offered =
    (n.runSlot now).2.2 ++ if (n.tick now).2.lost = [] then [] else [n.schedule.signalFail] := by
  have ho : (n.tick now).2.offered = (n.runSlot now).2.2 ++
      (if (n.tick now).2.lost = [] then none
        else some (n.runSlot now).1.schedule.signalFail).toList := rfl
  rw [ho, (n.kin_runSlot now).signalFail]
  split <;> rfl

lemma mem_offered_tick {n : Node} {now : Nat} {f : Frame} (hf : f ∈ (n.tick now).2.offered) :
    n.stampedCcm? = some f ∨ n.stampedLbm? = some f ∨ f = n.schedule.signalFail := by
  rw [offered_tick] at hf
  rcases List.mem_append.1 hf with hslot | hreport
  · exact (mem_runSlot hslot).imp_right .inl
  · split at hreport
    · exact nomatch hreport
    · exact .inr (.inr (List.mem_singleton.1 hreport))

end Node

/-! ### Many slots -/

namespace Schedule

lemma transmits_iff (s : Schedule) (skips : UInt32) :
    s.transmits skips = true ↔ s.sequence.toNat % (skips.toNat + 1) = 0 := by
  unfold transmits
  exact beq_iff_eq

/-- Where a schedule that was last woken at `woken` stands when `silent` slots have elapsed since the
transmission at `last`. -/
structure Cadence (sequence : UInt32) (nextSlot : Nat) (skips : UInt32)
    (period last silent woken : Nat) : Prop where
  last_le : last ≤ woken
  woken_lt : woken < nextSlot
  nextSlot_le : nextSlot ≤ last + (silent + 1) * period
  position : (sequence.toNat % (skips.toNat + 1) = 0 ∧ silent ≤ skips.toNat) ∨
    sequence.toNat % (skips.toNat + 1) = silent + 1

lemma succ_mod (n d : Nat) (hd : 0 < d) : (n + 1) % d = if n % d + 1 = d then 0 else n % d + 1 := by
  have hlt := Nat.mod_lt n hd
  have hsplit : (n + 1) % d = (n % d + 1) % d := by rw [Nat.mod_add_mod]
  rw [hsplit]
  split
  · next he => rw [he, Nat.mod_self]
  · next hne => exact Nat.mod_eq_of_lt (by omega)

/-- After a slot the position moves on by one or is back at a transmission, also when the sequence
number wraps. -/
lemma position_succ (sequence skips : UInt32) :
    (sequence + 1).toNat % (skips.toNat + 1) = 0 ∨
      (sequence + 1).toNat % (skips.toNat + 1) = sequence.toNat % (skips.toNat + 1) + 1 := by
  have hn := sequence.toNat_lt
  have h1 : (sequence + 1).toNat = (sequence.toNat + 1) % 2 ^ 32 := UInt32.toNat_add sequence 1
  by_cases hwrap : sequence.toNat + 1 = 2 ^ 32
  · left
    rw [h1, hwrap, Nat.mod_self, Nat.zero_mod]
  · have h2 : (sequence + 1).toNat = sequence.toNat + 1 := by
      rw [h1]
      exact Nat.mod_eq_of_lt (by omega)
    rw [h2, succ_mod _ _ (Nat.succ_pos _)]
    split
    · exact .inl rfl
    · exact .inr rfl

namespace Cadence

variable {sequence skips : UInt32} {nextSlot period last silent woken now : Nat}

lemma silent_le (h : Cadence sequence nextSlot skips period last silent woken) :
    silent ≤ skips.toNat := by
  have hlt : sequence.toNat % (skips.toNat + 1) < skips.toNat + 1 := Nat.mod_lt _ (Nat.succ_pos _)
  rcases h.position with ⟨-, hs⟩ | hp
  · exact hs
  · omega

/-- The next slot is never further from the last transmission than all slots in between. -/
lemma nextSlot_le_slots (h : Cadence sequence nextSlot skips period last silent woken) :
    nextSlot ≤ last + (skips.toNat + 1) * period := by
  have hs : (silent + 1) * period ≤ (skips.toNat + 1) * period :=
    Nat.mul_le_mul_right period (Nat.succ_le_succ h.silent_le)
  have := h.nextSlot_le
  omega

lemma early (h : Cadence sequence nextSlot skips period last silent woken)
    (hw : woken ≤ now) (hn : now < nextSlot) :
    Cadence sequence nextSlot skips period last silent now :=
  ⟨Nat.le_trans h.last_le hw, hn, h.nextSlot_le, h.position⟩

/-- A slot that is skipped. The tick is not late by a whole period, so that the next slot is due
exactly one period after this one. -/
lemma skipped (h : Cadence sequence nextSlot skips period last silent woken)
    (hw : woken ≤ now) (hgap : 2 * (now - woken) ≤ period) (hn : nextSlot ≤ now)
    (hp : 0 < period) (hskip : sequence.toNat % (skips.toNat + 1) ≠ 0) :
    Cadence (sequence + 1)
      (if nextSlot + period ≤ now then now + period else nextSlot + period)
      skips period last (silent + 1) now := by
  have hlt : sequence.toNat % (skips.toNat + 1) < skips.toNat + 1 := Nat.mod_lt _ (Nat.succ_pos _)
  have hlast := h.last_le
  have hwoken := h.woken_lt
  have hnext := h.nextSlot_le
  have hpos : sequence.toNat % (skips.toNat + 1) = silent + 1 := by
    rcases h.position with ⟨h0, -⟩ | hp
    · exact absurd h0 hskip
    · exact hp
  have hmul : (silent + 1 + 1) * period = (silent + 1) * period + period := Nat.succ_mul ..
  rw [if_neg (by omega)]
  refine ⟨by omega, by omega, by omega, ?_⟩
  rcases position_succ sequence skips with h0 | h1
  · exact .inl ⟨h0, by omega⟩
  · exact .inr (by omega)

end Cadence

/-- A slot that transmits, at whatever time it is run. -/
lemma cadence_transmitted {sequence skips : UInt32} {nextSlot period now : Nat}
    (hn : nextSlot ≤ now) (hp : 0 < period)
    (ht : sequence.toNat % (skips.toNat + 1) = 0) :
    Cadence (sequence + 1)
      (if nextSlot + period ≤ now then now + period else nextSlot + period)
      skips period now 0 now := by
  refine ⟨Nat.le_refl now, ?_, ?_, ?_⟩
  · split <;> omega
  · split <;> omega
  · rcases position_succ sequence skips with h0 | h1
    · exact .inl ⟨h0, Nat.zero_le _⟩
    · exact .inr (by omega)

end Schedule
end RingContinuity
