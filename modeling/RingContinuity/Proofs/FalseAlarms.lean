import RingContinuity.Proofs.Line
import Mathlib.Data.List.Chain

/-!
# False alarms

A receiver that hears every continuity check of its peer must not declare the peer lost while the
peer is still sending. It never does if the peer skips at most two slots between two checks, and if
the peer skips more, a run in which it does is given. Both directions follow the sender's schedule
through all ticks; the bound is two slots because a tick may be late by half an interval and the
receiver waits for three and a half.
-/

namespace RingContinuity

def LineEvent.sendTime? : LineEvent → Option Nat
  | .send now => some now
  | .watch _ => none

def sendTimes (evs : List LineEvent) : List Nat := evs.filterMap LineEvent.sendTime?

/-- Time does not run backwards, and between two ticks of the sender passes at most half a
period. -/
structure Paced (period : Nat) (evs : List LineEvent) : Prop where
  ordered : (evs.map LineEvent.time).Pairwise (· ≤ ·)
  gaps : (sendTimes evs).IsChain fun s t => 2 * (t - s) ≤ period

namespace Line

/-- A continuity check is sent in the run. -/
def SendsIn : Line → List LineEvent → Prop
  | _, [] => False
  | l, ev :: evs => l.Sends ev ∨ (l.step ev).SendsIn evs

/-- The receiver declares `m` lost after the first continuity check of the run and before the
last. -/
def FalseAlarm (l : Line) (m : UInt16) (evs : List LineEvent) : Prop :=
  ∃ before now after, evs = before ++ .watch now :: after ∧ l.SendsIn before ∧
    (l.run (before ++ [.watch now])).SendsIn after ∧
    m ∈ ((l.run before).receiver.tick now).2.lost

lemma run_append (l : Line) (evs evs' : List LineEvent) :
    l.run (evs ++ evs') = (l.run evs).run evs' := List.foldl_append ..

lemma run_cons (l : Line) (ev : LineEvent) (evs : List LineEvent) :
    l.run (ev :: evs) = (l.step ev).run evs := rfl

lemma run_snoc (l : Line) (evs : List LineEvent) (ev : LineEvent) :
    l.run (evs ++ [ev]) = (l.run evs).step ev := by
  rw [run_append]
  rfl

lemma sendsIn_append (l : Line) (evs evs' : List LineEvent) :
    l.SendsIn (evs ++ evs') ↔ l.SendsIn evs ∨ (l.run evs).SendsIn evs' := by
  induction evs generalizing l with
  | nil => simp [SendsIn, run]
  | cons ev evs ih =>
    change l.Sends ev ∨ (l.step ev).SendsIn (evs ++ evs') ↔
      (l.Sends ev ∨ (l.step ev).SendsIn evs) ∨ ((l.step ev).run evs).SendsIn evs'
    rw [ih, or_assoc]

lemma sendsIn_snoc (l : Line) (evs : List LineEvent) (ev : LineEvent) :
    l.SendsIn (evs ++ [ev]) ↔ l.SendsIn evs ∨ (l.run evs).Sends ev := by
  rw [sendsIn_append]
  simp [SendsIn]

lemma sendTimes_ne_nil {l : Line} {evs : List LineEvent} (h : l.SendsIn evs) :
    sendTimes evs ≠ [] := by
  induction evs generalizing l with
  | nil => exact False.elim h
  | cons ev evs ih =>
    cases ev with
    | send now => exact List.cons_ne_nil _ _
    | watch now =>
      rcases h with h | h
      · exact False.elim h
      · exact ih h

lemma between_run {l : Line} {sender : Config} {m : UInt16} (h : l.Between sender m)
    (evs : List LineEvent) : (l.run evs).Between sender m := by
  induction evs generalizing l with
  | nil => exact h
  | cons ev evs ih => exact ih (between_step h ev)

/-! ### At most two skips -/

/-- The sender's schedule and the receiver's knowledge of it when the sender was last woken at
`woken`. -/
def Steady (l : Line) (sender : Config) (m : UInt16) (woken : Nat) : Prop :=
  ∃ last silent, Schedule.Cadence l.sequence l.nextSlot sender.skips sender.interval.millis
    last silent woken ∧ l.receiver.Hears m last

variable {l : Line} {sender : Config} {m : UInt16}

lemma millis_pos (i : CcmInterval) : 0 < i.millis := by cases i <;> decide

lemma millis_even (i : CcmInterval) : i.millis % 2 = 0 := by cases i <;> decide

lemma steady_first (h : l.Between sender m) {now : Nat} (hn : l.nextSlot ≤ now)
    (hs : l.sequence = 0) : (l.step (.send now)).Steady sender m now := by
  have h0 : l.sequence.toNat % (sender.skips.toNat + 1) = 0 := by
    rw [hs]
    exact Nat.zero_mod _
  obtain ⟨hseq, hnext⟩ := send_due h hn
  refine ⟨now, 0, ?_, (send_transmits h hn h0).2⟩
  rw [hseq, hnext]
  exact Schedule.cadence_transmitted hn (millis_pos _) h0

lemma steady_send (h : l.Between sender m) {woken now : Nat} (hs : l.Steady sender m woken)
    (hw : woken ≤ now) (hgap : 2 * (now - woken) ≤ sender.interval.millis) :
    (l.step (.send now)).Steady sender m now := by
  obtain ⟨last, silent, hc, hh⟩ := hs
  by_cases hn : now < l.nextSlot
  · obtain ⟨-, hr, hseq, hnext⟩ := send_early h hn
    refine ⟨last, silent, ?_, ?_⟩
    · rw [hseq, hnext]
      exact hc.early hw hn
    · rw [hr]
      exact hh
  · have hn := Nat.not_lt.1 hn
    obtain ⟨hseq, hnext⟩ := send_due h hn
    by_cases hk : l.sequence.toNat % (sender.skips.toNat + 1) = 0
    · refine ⟨now, 0, ?_, (send_transmits h hn hk).2⟩
      rw [hseq, hnext]
      exact Schedule.cadence_transmitted hn (millis_pos _) hk
    · refine ⟨last, silent + 1, ?_, ?_⟩
      · rw [hseq, hnext]
        exact hc.skipped hw hgap hn (millis_pos _) hk
      · rw [(send_skipped h hn hk).2]
        exact hh

/-- With at most two skips, whoever watches before the next tick of the sender is in time. -/
lemma watch_in_time (h : l.Between sender m) (hk : sender.skips ≤ 2) {woken now next : Nat}
    (hs : l.Steady sender m woken) (hnow : now ≤ next)
    (hgap : 2 * (next - woken) ≤ sender.interval.millis) :
    (l.step (.watch now)).Steady sender m woken ∧ m ∉ (l.receiver.tick now).2.lost := by
  obtain ⟨last, silent, hc, hh⟩ := hs
  have hslots := hc.nextSlot_le_slots
  have hwoken := hc.woken_lt
  have heven := millis_even sender.interval
  have hskips : sender.skips.toNat ≤ 2 := UInt32.le_iff_toNat_le.1 hk
  have hthree : (sender.skips.toNat + 1) * sender.interval.millis ≤ 3 * sender.interval.millis :=
    Nat.mul_le_mul_right _ (Nat.succ_le_succ hskips)
  have hlate : now < last + l.receiver.station.meps.lossThreshold := by
    rw [h.threshold]
    unfold CcmInterval.lossThreshold
    omega
  have hmeps : (l.step (.watch now)).receiver.station.meps =
      (l.receiver.station.meps.sweep now).1 := l.receiver.meps_tick now
  refine ⟨⟨last, silent, hc, ?_⟩, ?_⟩
  · unfold Node.Hears
    rw [hmeps, MepTable.lossThreshold_sweep, MepTable.entry_sweep]
    exact RemoteMep.HeardAt.swept hh hlate
  · rw [Node.lost_tick, MepTable.mem_sweep, RemoteMep.HeardAt.isOverdue_iff hh]
    omega

end Line

lemma sendTimes_append (evs evs' : List LineEvent) :
    sendTimes (evs ++ evs') = sendTimes evs ++ sendTimes evs' := List.filterMap_append

lemma mem_times_of_mem_sendTimes {evs : List LineEvent} {t : Nat} (h : t ∈ sendTimes evs) :
    t ∈ evs.map LineEvent.time := by
  obtain ⟨ev, hev, ht⟩ := List.mem_filterMap.1 h
  cases ev with
  | send now =>
    cases ht
    exact List.mem_map.2 ⟨_, hev, rfl⟩
  | watch now => exact nomatch ht

namespace Paced

variable {period : Nat} {before after : List LineEvent} {ev : LineEvent} {p u : Nat}

lemma le_of_append (h : Paced period (before ++ after)) (hp : p ∈ before.map LineEvent.time)
    (hu : u ∈ after.map LineEvent.time) : p ≤ u := by
  have ho := h.ordered
  rw [List.map_append, List.pairwise_append] at ho
  exact ho.2.2 p hp u hu

/-- Two ticks of the sender without another one in between. -/
lemma gap_of_append (h : Paced period (before ++ after)) (hp : (sendTimes before).getLast? = some p)
    (hu : (sendTimes after).head? = some u) : p ≤ u ∧ 2 * (u - p) ≤ period := by
  have hg := h.gaps
  rw [sendTimes_append, List.isChain_append] at hg
  refine ⟨h.le_of_append ?_ ?_, hg.2.2 p hp u hu⟩
  · exact mem_times_of_mem_sendTimes (List.mem_of_getLast? hp)
  · exact mem_times_of_mem_sendTimes (List.mem_of_head? hu)

end Paced

namespace Line

variable {l : Line} {sender : Config} {m : UInt16}

/-- Up to any point of a paced run after which the sender still ticks, either nothing was sent yet
or the line is steady. -/
theorem steady_run (h : l.Between sender m) (h0 : l.sequence = 0) (hk : sender.skips ≤ 2)
    (before after : List LineEvent) (hp : Paced sender.interval.millis (before ++ after))
    (hne : sendTimes after ≠ []) :
    (¬ l.SendsIn before ∧ (l.run before).sequence = 0) ∨
      ∃ woken, (sendTimes before).getLast? = some woken ∧ (l.run before).Steady sender m woken := by
  induction before using List.reverseRecOn generalizing after with
  | nil => exact .inl ⟨id, h0⟩
  | append_singleton before ev ih =>
    rw [List.append_assoc] at hp
    have hb := between_run h before
    have hne' : sendTimes ([ev] ++ after) ≠ [] := by
      rw [sendTimes_append]
      exact fun hnil => hne (List.append_eq_nil_iff.1 hnil).2
    rw [run_snoc, sendsIn_snoc, sendTimes_append]
    cases ev with
    | send now =>
      have hlast : (sendTimes before ++ sendTimes [.send now]).getLast? = some now :=
        List.getLast?_concat
      rcases ih _ hp hne' with ⟨hns, hseq⟩ | ⟨woken, hw, hs⟩
      · by_cases hn : now < (l.run before).nextSlot
        · obtain ⟨hsend, -, hseq', -⟩ := send_early hb hn
          exact .inl ⟨not_or.2 ⟨hns, hsend⟩, hseq'.trans hseq⟩
        · exact .inr ⟨now, hlast, steady_first hb (Nat.not_lt.1 hn) hseq⟩
      · obtain ⟨hle, hgap⟩ := hp.gap_of_append hw rfl
        exact .inr ⟨now, hlast, steady_send hb hs hle hgap⟩
    | watch now =>
      rcases ih _ hp hne' with ⟨hns, hseq⟩ | ⟨woken, hw, hs⟩
      · exact .inl ⟨not_or.2 ⟨hns, id⟩, hseq⟩
      · obtain ⟨next, hnext⟩ := Option.ne_none_iff_exists'.1 (mt List.head?_eq_none_iff.1 hne)
        have hgap := (hp.gap_of_append hw hnext).2
        have hle : now ≤ next := by
          rw [← List.append_assoc] at hp
          refine hp.le_of_append ?_ (mem_times_of_mem_sendTimes (List.mem_of_head? hnext))
          rw [List.map_append, List.mem_append]
          exact .inr List.mem_cons_self
        refine .inr ⟨woken, ?_, (watch_in_time hb hk hs hle hgap).1⟩
        rw [show sendTimes [.watch now] = [] from rfl, List.append_nil]
        exact hw

theorem not_falseAlarm (h : l.Between sender m) (h0 : l.sequence = 0) (hk : sender.skips ≤ 2)
    {evs : List LineEvent} (hp : Paced sender.interval.millis evs) : ¬ l.FalseAlarm m evs := by
  rintro ⟨before, now, after, rfl, hbefore, hafter, hlost⟩
  have hne := sendTimes_ne_nil hafter
  rcases steady_run h h0 hk before (.watch now :: after) hp hne with ⟨hns, -⟩ | ⟨woken, hw, hs⟩
  · exact hns hbefore
  · obtain ⟨next, hnext⟩ := Option.ne_none_iff_exists'.1 (mt List.head?_eq_none_iff.1 hne)
    have hnext' : (sendTimes (.watch now :: after)).head? = some next := hnext
    have hgap := (hp.gap_of_append hw hnext').2
    have hle : now ≤ next := by
      have hp' : Paced sender.interval.millis ((before ++ [.watch now]) ++ after) := by
        rw [List.append_assoc]
        exact hp
      refine hp'.le_of_append ?_ (mem_times_of_mem_sendTimes (List.mem_of_head? hnext))
      rw [List.map_append, List.mem_append]
      exact .inr List.mem_cons_self
    exact (watch_in_time (between_run h before) hk hs hle hgap).2 hlost

/-! ### Three skips or more -/

/-- The ticks `a`, `a + 1` and so on, `n` of them, of a sender that ticks twice in every period. -/
def beats (start half a n : Nat) : List LineEvent :=
  (List.range' a n).map fun i => .send (start + i * half)

/-- The sender's schedule after `n` ticks, twice in every period, from its first slot on. -/
structure Marching (l : Line) (start half n : Nat) : Prop where
  sequence : l.sequence.toNat = (n + 1) / 2 % 2 ^ 32
  nextSlot : l.nextSlot = start + (n + 1) / 2 * (2 * half)

variable {start half n : Nat}

/-- Until the slot after all skipped ones, the sender is silent. -/
lemma marching_send (h : l.Between sender m) (hhalf : sender.interval.millis = 2 * half)
    (hm : l.Marching start half n) (h1 : 1 ≤ n) (hn : n < 2 * (sender.skips.toNat + 1)) :
    (l.step (.send (start + n * half))).Marching start half (n + 1) ∧
      (l.step (.send (start + n * half))).receiver = l.receiver := by
  have hpos : 0 < half := by
    have := millis_pos sender.interval
    omega
  have hskips := sender.skips.toNat_lt
  obtain ⟨hseq, hnext⟩ := hm
  rcases Nat.mod_two_eq_zero_or_one n with heven | hodd
  · -- An even tick falls on its slot.
    have hdue : l.nextSlot = start + n * half := by
      rw [hnext, ← Nat.mul_assoc]
      have : (n + 1) / 2 * 2 = n := by omega
      rw [this]
    have hk : l.sequence.toNat % (sender.skips.toNat + 1) ≠ 0 := by
      have hs : l.sequence.toNat = n / 2 := by
        rw [hseq, Nat.mod_eq_of_lt (by omega)]
        omega
      rw [hs, Nat.mod_eq_of_lt (by omega)]
      omega
    obtain ⟨hseq', hnext'⟩ := send_due h (Nat.le_of_eq hdue)
    refine ⟨⟨?_, ?_⟩, (send_skipped h (Nat.le_of_eq hdue) hk).2⟩
    · have hadd : (l.sequence + 1).toNat = (l.sequence.toNat + 1) % 2 ^ 32 :=
        UInt32.toNat_add l.sequence 1
      rw [hseq', hadd, hseq]
      omega
    · have hnot : ¬ l.nextSlot + sender.interval.millis ≤ start + n * half := by omega
      have hmul : (n + 1 + 1) / 2 * (2 * half) = (n + 1) / 2 * (2 * half) + 2 * half := by
        have : (n + 1 + 1) / 2 = (n + 1) / 2 + 1 := by omega
        rw [this, Nat.succ_mul]
      rw [hnext', if_neg hnot, hnext, hhalf, hmul, Nat.add_assoc]
  · -- An odd tick falls between two slots.
    have hhalves : (n + 1) / 2 * (2 * half) = n * half + half := by
      have : (n + 1) / 2 * 2 = n + 1 := by omega
      rw [← Nat.mul_assoc, this, Nat.succ_mul]
    have hearly : start + n * half < l.nextSlot := by
      rw [hnext, hhalves]
      omega
    obtain ⟨-, hr, hseq', hnext'⟩ := send_early h hearly
    have hround : (n + 1 + 1) / 2 = (n + 1) / 2 := by omega
    refine ⟨⟨?_, ?_⟩, hr⟩
    · rw [hseq', hseq, hround]
    · rw [hnext', hnext, hround]

lemma marching_watch (hm : l.Marching start half n) (now : Nat) :
    (l.step (.watch now)).Marching start half n := ⟨hm.sequence, hm.nextSlot⟩

lemma marching_beats (h : l.Between sender m) (hhalf : sender.interval.millis = 2 * half)
    (hm : l.Marching start half n) (h1 : 1 ≤ n) (c : Nat)
    (hn : n + c ≤ 2 * (sender.skips.toNat + 1)) :
    (l.run (beats start half n c)).Marching start half (n + c) ∧
      (l.run (beats start half n c)).receiver = l.receiver := by
  induction c generalizing l n with
  | zero => exact ⟨hm, rfl⟩
  | succ c ih =>
    obtain ⟨hm', hr⟩ := marching_send h hhalf hm h1 (by omega)
    obtain ⟨hmc, hrc⟩ := ih (between_step h _) hm' (Nat.le_add_left 1 n) (by omega)
    rw [show n + (c + 1) = n + 1 + c by omega]
    exact ⟨hmc, hrc.trans hr⟩

/-- Ticks twice in every period, and a look at the receiver three and a half periods after the
start. -/
def alarmRun (start half skips : Nat) : List LineEvent :=
  beats start half 0 8 ++ .watch (start + 7 * half) :: beats start half 8 (2 * skips - 5)

lemma paced_alarmRun (start half skips : Nat) : Paced (2 * half) (alarmRun start half skips) := by
  have hmono : ∀ i j, i ≤ j → start + i * half ≤ start + j * half := fun i j hij =>
    Nat.add_le_add_left (Nat.mul_le_mul_right half hij) start
  have htimes : ∀ a n, (beats start half a n).map LineEvent.time =
      (List.range' a n).map fun i => start + i * half := by
    intro a n
    unfold beats
    rw [List.map_map]
    rfl
  have hsends : ∀ a n, sendTimes (beats start half a n) =
      (List.range' a n).map fun i => start + i * half := by
    intro a n
    unfold beats sendTimes
    rw [List.filterMap_map]
    change (List.range' a n).filterMap (some ∘ fun i => start + i * half) = _
    rw [List.filterMap_eq_map]
  have hsorted : ∀ a n, ((List.range' a n).map fun i => start + i * half).Pairwise (· ≤ ·) := by
    intro a n
    have hlt : (List.range' a n).Pairwise (· < ·) := List.pairwise_lt_range' 1
    rw [List.pairwise_map]
    exact hlt.imp fun hij => hmono _ _ (Nat.le_of_lt hij)
  refine ⟨?_, ?_⟩
  · unfold alarmRun
    rw [List.map_append, List.map_cons, htimes, htimes, List.pairwise_append, List.pairwise_cons]
    refine ⟨hsorted 0 8, ⟨?_, hsorted 8 _⟩, ?_⟩
    · intro t ht
      obtain ⟨i, hi, rfl⟩ := List.mem_map.1 ht
      have := (List.mem_range'_1.1 hi).1
      exact hmono 7 i (by omega)
    · intro t ht u hu
      obtain ⟨i, hi, rfl⟩ := List.mem_map.1 ht
      have hi := List.mem_range'_1.1 hi
      rcases List.mem_cons.1 hu with rfl | hu
      · exact hmono i 7 (by omega)
      · obtain ⟨j, hj, rfl⟩ := List.mem_map.1 hu
        have hj := List.mem_range'_1.1 hj
        exact hmono i j (by omega)
  · have hall : sendTimes (alarmRun start half skips) =
        (List.range' 0 (8 + (2 * skips - 5))).map fun i => start + i * half := by
      unfold alarmRun
      rw [sendTimes_append, hsends,
        show sendTimes (.watch (start + 7 * half) :: beats start half 8 (2 * skips - 5)) =
          sendTimes (beats start half 8 (2 * skips - 5)) from rfl, hsends, ← List.map_append,
        show 8 = 0 + 1 * 8 from rfl, List.range'_append]
    rw [hall, List.isChain_map]
    refine (List.isChain_range' 0 _ 1).imp fun i j hij => ?_
    have hsucc : (i + 1) * half = i * half + half := Nat.succ_mul i half
    rw [hij, hsucc]
    omega

lemma marching_first (h : l.Between sender m) (h0 : l.sequence = 0)
    (hhalf : sender.interval.millis = 2 * half) :
    (l.step (.send l.nextSlot)).Marching l.nextSlot half 1 := by
  have hpos := millis_pos sender.interval
  obtain ⟨hseq, hnext⟩ := send_due h (Nat.le_refl l.nextSlot)
  refine ⟨?_, ?_⟩
  · rw [hseq, h0]
    rfl
  · rw [hnext, if_neg (by omega), hhalf]
    omega

/-- After all skipped slots the sender sends again, even if the sequence number has just wrapped. -/
lemma sends_of_marching (h : l.Between sender m) (hm : l.Marching start half
    (2 * (sender.skips.toNat + 1))) :
    l.Sends (.send (start + 2 * (sender.skips.toNat + 1) * half)) := by
  have hlt := sender.skips.toNat_lt
  have hround : (2 * (sender.skips.toNat + 1) + 1) / 2 = sender.skips.toNat + 1 := by omega
  obtain ⟨hseq, hnext⟩ := hm
  rw [hround] at hseq hnext
  have hdue : l.nextSlot ≤ start + 2 * (sender.skips.toNat + 1) * half := by
    rw [hnext, ← Nat.mul_assoc, Nat.mul_comm _ 2]
  have hk : l.sequence.toNat % (sender.skips.toNat + 1) = 0 := by
    rw [hseq]
    by_cases hwrap : sender.skips.toNat + 1 = 2 ^ 32
    · rw [hwrap, Nat.mod_self, Nat.zero_mod]
    · rw [Nat.mod_eq_of_lt (show sender.skips.toNat + 1 < 2 ^ 32 by omega), Nat.mod_self]
  exact (send_transmits h hdue hk).1

/-- With three skips or more, the receiver can declare a loss that there never was. -/
theorem falseAlarm_alarmRun (h : l.Between sender m) (h0 : l.sequence = 0)
    (hk : 3 ≤ sender.skips) (hhalf : sender.interval.millis = 2 * half) :
    l.FalseAlarm m (alarmRun l.nextSlot half sender.skips.toNat) := by
  have hskips : 3 ≤ sender.skips.toNat := UInt32.le_iff_toNat_le.1 hk
  have hfirst : l.sequence.toNat % (sender.skips.toNat + 1) = 0 := by
    rw [h0]
    exact Nat.zero_mod _
  obtain ⟨hsends, hhears⟩ := send_transmits h (Nat.le_refl l.nextSlot) hfirst
  have hb := between_step h (.send l.nextSlot)
  have hbefore : beats l.nextSlot half 0 8 =
      .send l.nextSlot :: beats l.nextSlot half 1 7 := by
    change LineEvent.send (l.nextSlot + 0 * half) :: _ = _
    rw [Nat.zero_mul]
    rfl
  obtain ⟨hm8, hr8⟩ := marching_beats hb hhalf (marching_first h h0 hhalf) (Nat.le_refl 1) 7
    (by omega)
  have hlate : l.nextSlot + (l.step (.send l.nextSlot)).receiver.station.meps.lossThreshold ≤
      l.nextSlot + 7 * half := by
    rw [hb.threshold]
    unfold CcmInterval.lossThreshold
    omega
  have hafter : beats l.nextSlot half 8 (2 * sender.skips.toNat - 5) =
      beats l.nextSlot half 8 (2 * sender.skips.toNat - 6) ++
        [.send (l.nextSlot + 2 * (sender.skips.toNat + 1) * half)] := by
    unfold beats
    rw [show 2 * sender.skips.toNat - 5 = 2 * sender.skips.toNat - 6 + 1 by omega,
      List.range'_concat, List.map_append]
    rw [show 8 + 1 * (2 * sender.skips.toNat - 6) = 2 * (sender.skips.toNat + 1) by omega]
    rfl
  refine ⟨beats l.nextSlot half 0 8, _, _, rfl, ?_, ?_, ?_⟩
  · rw [hbefore]
    exact .inl hsends
  · rw [run_snoc, hbefore, run_cons, hafter, sendsIn_snoc]
    have hbw := between_step (between_run hb (beats l.nextSlot half 1 7))
      (.watch (l.nextSlot + 7 * half))
    obtain ⟨hmlast, -⟩ := marching_beats hbw hhalf (marching_watch hm8 _) (by omega)
      (2 * sender.skips.toNat - 6) (by omega)
    rw [show 8 + (2 * sender.skips.toNat - 6) = 2 * (sender.skips.toNat + 1) by omega] at hmlast
    exact .inr (sends_of_marching (between_run hbw _) hmlast)
  · rw [hbefore, run_cons, hr8, Node.lost_tick, MepTable.mem_sweep,
      RemoteMep.HeardAt.isOverdue_iff hhears]
    exact hlate

lemma between_create {receiver : Config} {own own' : MacAddress} {ids ids' : IdSource}
    {start start' : Nat} {s r : Node} (hp : sender.Peers receiver m)
    (hs : Node.create sender own ids start = .ok s)
    (hr : Node.create receiver own' ids' start' = .ok r) :
    (Line.mk s r).Between sender m ∧ (Line.mk s r).sequence = 0 := by
  obtain ⟨tag, htag, htemplates, hstation, hseq, -⟩ := Node.of_create own ids start hs
  obtain ⟨-, -, -, hstation', -, -⟩ := Node.of_create own' ids' start' hr
  obtain ⟨f, hf, hfo⟩ := htemplates.ccm m hp.mepId
  refine ⟨⟨?_, ?_, ⟨f, _, own, tag, hf, htag, hfo⟩, ?_, ?_⟩, hseq⟩
  · rw [hstation]
    rfl
  · rw [hstation']
    exact hp
  · rw [hstation]
    rfl
  · rw [hstation']
    change receiver.interval.lossThreshold = _
    rw [hp.interval]

end Line

/-- Two nodes with valid configurations of one association and different end point ids come up, and
the validation leaves the number of skipped slots open. Without losses, and with ticks of the sender
at least twice in every interval, no run has a false alarm if and only if the sender skips at most
two slots. -/
theorem no_false_alarm_iff {sender receiver : Config} {m : UInt16}
    (hs : sender.validate = .ok ()) (hr : receiver.validate = .ok ()) (ha : sender.Agree receiver)
    (hm : sender.mepId = some m) (hother : receiver.mepId ≠ some m)
    (own own' : MacAddress) (ids ids' : IdSource) (start start' : Nat) :
    (∀ skips, { sender with skips }.validate = .ok ()) ∧
    ∃ s r, Node.create sender own ids start = .ok s ∧
      Node.create receiver own' ids' start' = .ok r ∧
      ((∀ evs, Paced sender.interval.millis evs → ¬ (Line.mk s r).FalseAlarm m evs) ↔
        sender.skips ≤ 2) := by
  have hvs := Config.valid_of_validate hs
  have hvr := Config.valid_of_validate hr
  obtain ⟨tag, ht⟩ := Config.tag_ok hvs.vlan
  obtain ⟨tag', ht'⟩ := Config.tag_ok hvr.vlan
  obtain ⟨s, hsc, -⟩ := Node.create_ok own ids start ht
  obtain ⟨r, hrc, -⟩ := Node.create_ok own' ids' start' ht'
  obtain ⟨hb, h0⟩ := Line.between_create ⟨ha, hvs, hm, hother⟩ hsc hrc
  refine ⟨fun _ => hs, s, r, hsc, hrc, fun hnone => ?_, fun hk evs hp => ?_⟩
  · by_contra hk
    have hk3 : 3 ≤ sender.skips := by
      rw [UInt32.le_iff_toNat_le] at hk ⊢
      change ¬ sender.skips.toNat ≤ 2 at hk
      change 3 ≤ sender.skips.toNat
      omega
    have heven := Line.millis_even sender.interval
    have hhalf : sender.interval.millis = 2 * (sender.interval.millis / 2) := by omega
    have hp := Line.paced_alarmRun (Line.mk s r).nextSlot (sender.interval.millis / 2)
      sender.skips.toNat
    rw [← hhalf] at hp
    exact hnone _ hp (Line.falseAlarm_alarmRun hb h0 hk3 hhalf)
  · exact Line.not_falseAlarm hb h0 hk hp

theorem no_false_alarm_iff_neighbours :
    ∃ s r, Node.create { mepId := some 1, skips := 3 } ⟨2, 0, 0, 0, 0, 1⟩ ⟨fun _ => 0, 0⟩ 0 = .ok s ∧
      Node.create { mepId := some 2 } ⟨2, 0, 0, 0, 0, 2⟩ ⟨fun _ => 0, 0⟩ 0 = .ok r ∧
      ((∀ evs, Paced 1000 evs → ¬ (Line.mk s r).FalseAlarm 1 evs) ↔ (3 : UInt32) ≤ 2) := by
  have hs : Config.validate { mepId := some 1, skips := 3 } = .ok () := rfl
  have hr : Config.validate { mepId := some 2 } = .ok () := rfl
  exact (no_false_alarm_iff hs hr ⟨rfl, rfl, rfl, rfl, rfl⟩ rfl (by decide) _ _ _ _ 0 0).2

end RingContinuity
