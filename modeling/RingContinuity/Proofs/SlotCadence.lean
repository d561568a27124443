import RingContinuity.Proofs.SignalFail

/-!
# The cadence of the slots

A node that skips `k` slots means to send its continuity check in one of any `k + 1` slots in a row.
It goes by the remainder of a sequence number of 32 bits, so that the wrap of the number restarts the
cadence: among `k + 1` slots in a row around the wrap two can transmit, unless `k + 1` divides the
number of sequence numbers.
-/

namespace RingContinuity

namespace Tick

def OffersCcm (t : Tick) : Prop := ∃ f ∈ t.offered, Station.IsCcm f

/-- Nothing is offered, unless it is a report to the ring. -/
def Quiet (t : Tick) : Prop := t.offered = [] ∨ ∃ f, t.offered = [f] ∧ IsSignalFail f.onLink

instance (t : Tick) : Decidable t.OffersCcm :=
  inferInstanceAs (Decidable (∃ f ∈ t.offered, f.isCfm = true ∧ f.opcode = .ok .ccm))

end Tick

namespace Node

def slot? (n : Node) : NodeEvent → Option Tick
  | .tick now => if (n.tick now).2.slot then some (n.tick now).2 else none
  | _ => none

/-- The slots that elapse in a run, in order. -/
def slots (n : Node) : List NodeEvent → List Tick
  | [] => []
  | ev :: evs => (n.slot? ev).toList ++ (n.turn ev).1.slots evs

end Node

/-- The `k + 1` slots from the slot `a` on go over a wrap of the sequence number, with a transmission
in front of the wrap that the one behind it comes too soon after. -/
def Schedule.Restarts (skips : UInt32) (a : Nat) : Prop :=
  let every := skips.toNat + 1
  let wrap := (a / UInt32.size + 1) * UInt32.size
  UInt32.size % every ≠ 0 ∧ a + UInt32.size % every ≤ wrap ∧ wrap < a + every

instance (skips : UInt32) (a : Nat) : Decidable (Schedule.Restarts skips a) :=
  inferInstanceAs (Decidable (_ ∧ _ ∧ _))

/-! ### One slot -/

namespace Schedule.Templates

variable {n : Node} {config : Config} {own : MacAddress} {tag : Option VlanTag}

lemma isCcm_stamped (h : n.schedule.Templates config own tag) {id : UInt16}
    (hm : config.mepId = some id) : ∃ f, n.stampedCcm? = some f ∧ Station.IsCcm f := by
  obtain ⟨f, hf, hfo⟩ := h.stampedCcm_eq hm
  refine ⟨f, hf, Frame.isCfm_eq hfo, ?_⟩
  rw [Frame.opcode_eq hfo (Ccm.fits_ownHeader config)]
  exact Opcode.ofCode_code .ccm

lemma not_isCcm_signalFail (h : n.schedule.Templates config own tag) :
    ¬ Station.IsCcm n.schedule.signalFail := by
  rintro ⟨-, ho⟩
  rw [Frame.opcode_eq h.signalFail (RingAps.fits_ownHeader config)] at ho
  exact nomatch ho

/-- Which slots transmit is up to the sequence number, and the others offer a report at most. -/
theorem offersCcm_iff (h : n.schedule.Templates config own tag) {id : UInt16}
    (hm : config.mepId = some id) {now : Nat} (hd : n.schedule.nextSlot ≤ now) :
    ((n.tick now).2.OffersCcm ↔ n.schedule.transmits n.station.config.skips = true) ∧
      (¬ (n.tick now).2.OffersCcm → (n.tick now).2.Quiet) := by
  have ho := n.offered_tick now
  rw [(Node.runSlot_due hd).1] at ho
  by_cases ht : n.schedule.transmits n.station.config.skips = true
  · rw [if_pos ht] at ho
    obtain ⟨f, hf, hccm⟩ := h.isCcm_stamped hm
    have hoffers : (n.tick now).2.OffersCcm := by
      refine ⟨f, ?_, hccm⟩
      rw [ho, hf]
      exact List.mem_cons_self
    exact ⟨iff_of_true hoffers ht, fun hn => absurd hoffers hn⟩
  · rw [if_neg ht, List.nil_append] at ho
    have hno : ¬ (n.tick now).2.OffersCcm := by
      rintro ⟨f, hf, hccm⟩
      rw [ho] at hf
      split at hf
      · exact nomatch hf
      · rw [List.mem_singleton.1 hf] at hccm
        exact h.not_isCcm_signalFail hccm
    refine ⟨iff_of_false hno ht, fun _ => ?_⟩
    unfold Tick.Quiet
    rw [ho]
    split
    · exact .inl rfl
    · exact .inr ⟨_, rfl, h.isSignalFail⟩

end Schedule.Templates

namespace Node

variable {n : Node}

lemma slot?_tick (n : Node) (now : Nat) : n.slot? (.tick now) =
    if n.schedule.nextSlot ≤ now then some (n.tick now).2 else none := by
  change (if (n.runSlot now).2.1 = true then _ else _) = _
  unfold runSlot
  by_cases hd : now < n.schedule.nextSlot
  · rw [if_pos hd, if_neg (Nat.not_le.2 hd)]
    rfl
  · rw [if_neg hd, if_pos (Nat.not_lt.1 hd)]
    rfl

lemma slot?_eq_some {ev : NodeEvent} {t : Tick} (h : n.slot? ev = some t) :
    ∃ now, ev = .tick now ∧ n.schedule.nextSlot ≤ now ∧ t = (n.tick now).2 := by
  cases ev with
  | tick now =>
    rw [slot?_tick] at h
    split at h
    · next hd => exact ⟨now, rfl, hd, (Option.some.inj h).symm⟩
    · exact nomatch h
  | receive f now => exact nomatch h
  | linktrace target ttl now => exact nomatch h
  | note entry => exact nomatch h
  | draw => exact nomatch h
  | reseed ids => exact nomatch h

/-- The sequence number counts the slots. -/
theorem sequence_turn (n : Node) (ev : NodeEvent) : (n.turn ev).1.schedule.sequence =
    n.schedule.sequence + if (n.slot? ev).isSome then 1 else 0 := by
  cases ev with
  | tick now =>
    change (n.runSlot now).1.schedule.sequence = _
    rw [slot?_tick]
    by_cases hd : n.schedule.nextSlot ≤ now
    · rw [(runSlot_due hd).2.1, if_pos hd]
      rfl
    · rw [runSlot_early (Nat.not_le.1 hd), if_neg hd]
      exact (UInt32.add_zero _).symm
  | linktrace target ttl now =>
    unfold turn linktrace Station.linktrace
    dsimp only [Station.drawId]
    cases Linktrace.buildRequest n.station.config n.station.own target n.station.ids.draw.1
      (ttl.getD Linktrace.defaultTtl) <;> exact (UInt32.add_zero _).symm
  | receive f now => exact (UInt32.add_zero _).symm
  | note entry => exact (UInt32.add_zero _).symm
  | draw => exact (UInt32.add_zero _).symm
  | reseed ids => exact (UInt32.add_zero _).symm

variable {config : Config} {own : MacAddress} {tag : Option VlanTag} {id : UInt16}

/-- The slot `i` of a run transmits if the sequence number that far on is a multiple. -/
theorem offersCcm_slots (ht : n.schedule.Templates config own tag)
    (hc : n.station.config = config) (hm : config.mepId = some id) (evs : List NodeEvent) {i : Nat}
    {t : Tick} (hi : (n.slots evs)[i]? = some t) :
    (t.OffersCcm ↔
      (n.schedule.sequence.toNat + i) % UInt32.size % (config.skips.toNat + 1) = 0) ∧
    (¬ t.OffersCcm → t.Quiet) := by
  induction evs generalizing n i with
  | nil => exact nomatch hi
  | cons ev evs ih =>
    have hk := n.kin_turn ev
    have ih := @ih _ (ht.of_kin hk) (hk.config.trans hc)
    have hseq := n.sequence_turn ev
    unfold slots at hi
    cases hs : n.slot? ev with
    | none =>
      rw [hs] at hi hseq
      rw [show (n.turn ev).1.schedule.sequence = n.schedule.sequence from
        hseq.trans (UInt32.add_zero _)] at ih
      exact ih hi
    | some t' =>
      rw [hs] at hi hseq
      cases i with
      | zero =>
        obtain ⟨now, rfl, hd, rfl⟩ := slot?_eq_some hs
        cases hi
        have hlt : n.schedule.sequence.toNat % UInt32.size = n.schedule.sequence.toNat :=
          Nat.mod_eq_of_lt n.schedule.sequence.toNat_lt
        rw [Nat.add_zero, hlt, ← hc, ← Schedule.transmits_iff]
        exact ht.offersCcm_iff hm hd
      | succ i =>
        have hnext : ((n.turn ev).1.schedule.sequence.toNat + i) % UInt32.size =
            (n.schedule.sequence.toNat + (i + 1)) % UInt32.size := by
          rw [show (n.turn ev).1.schedule.sequence = n.schedule.sequence + 1 from hseq,
            show (n.schedule.sequence + 1).toNat = (n.schedule.sequence.toNat + 1) % UInt32.size
              from UInt32.toNat_add _ _, Nat.mod_add_mod, Nat.add_assoc, Nat.add_comm 1 i]
        rw [← hnext]
        exact ih hi

end Node

def pacedTicks (period : Nat) : Nat → Nat → List NodeEvent
  | 0, _ => []
  | count + 1, now => .tick now :: pacedTicks period count (now + period)

/-- A slot elapses in every tick of a node that is woken whenever a slot is due. -/
theorem Node.length_slots_paced (n : Node) (count : Nat) :
    (n.slots (pacedTicks n.station.config.interval.millis count n.schedule.nextSlot)).length =
      count := by
  induction count generalizing n with
  | zero => rfl
  | succ count ih =>
    have hc := (n.kin_tick n.schedule.nextSlot).config
    have hnext : (n.tick n.schedule.nextSlot).1.schedule.nextSlot =
        n.schedule.nextSlot + n.station.config.interval.millis := by
      change (n.runSlot n.schedule.nextSlot).1.schedule.nextSlot = _
      rw [(runSlot_due (Nat.le_refl _)).2.2]
      split <;> omega
    have ih := ih (n.tick n.schedule.nextSlot).1
    rw [hc, hnext] at ih
    unfold pacedTicks slots
    rw [slot?_tick, if_pos (Nat.le_refl _)]
    exact congrArg Nat.succ ih

/-! ### Slots in a row -/

lemma countP_eq_range {α : Type} {xs : List α} {p : α → Bool} {q : Nat → Bool}
    (h : ∀ i x, xs[i]? = some x → (p x = true ↔ q i = true)) :
    xs.countP p = (List.range xs.length).countP q := by
  have hmap : xs.map p = (List.range xs.length).map q := by
    apply List.ext_getElem
    · rw [List.length_map, List.length_map, List.length_range]
    · intro i hi _
      rw [List.length_map] at hi
      rw [List.getElem_map, List.getElem_map, List.getElem_range]
      exact Bool.eq_iff_iff.2 (h i xs[i] (List.getElem?_eq_getElem hi))
  have hcount := congrArg (List.countP id) hmap
  rw [List.countP_map, List.countP_map] at hcount
  exact hcount

namespace Schedule

lemma countP_multiples {x every len : Nat} (hlen : len ≤ every) :
    (List.range len).countP (fun i => (x + i) % every == 0) =
      if ∃ i < len, (x + i) % every = 0 then 1 else 0 := by
  split
  · next h =>
    obtain ⟨i, hi, hmi⟩ := h
    have hone : ∀ j ∈ List.range len, ((x + j) % every == 0) = true ↔ (j == i) = true := by
      intro j hj
      have hj := List.mem_range.1 hj
      rw [beq_iff_eq, beq_iff_eq]
      refine ⟨fun hmj => ?_, fun he => by rw [he, hmi]⟩
      -- Two multiples that are less than `every` apart are the same.
      have hij : every ∣ (x + j) - (x + i) :=
        Nat.dvd_sub (Nat.dvd_of_mod_eq_zero hmj) (Nat.dvd_of_mod_eq_zero hmi)
      have hji : every ∣ (x + i) - (x + j) :=
        Nat.dvd_sub (Nat.dvd_of_mod_eq_zero hmi) (Nat.dvd_of_mod_eq_zero hmj)
      have h1 := Nat.eq_zero_of_dvd_of_lt hij (by omega)
      have h2 := Nat.eq_zero_of_dvd_of_lt hji (by omega)
      omega
    rw [List.countP_congr hone]
    change (List.range len).count i = 1
    rw [List.count_range, if_pos hi]
  · next h =>
    rw [List.countP_eq_zero]
    intro i hi hmi
    exact h ⟨i, List.mem_range.1 hi, beq_iff_eq.1 hmi⟩

lemma exists_multiple {x every : Nat} (he : 0 < every) : ∃ i < every, (x + i) % every = 0 := by
  have hlt := Nat.mod_lt x he
  by_cases h0 : x % every = 0
  · exact ⟨0, he, h0⟩
  · refine ⟨every - x % every, by omega, ?_⟩
    rw [← Nat.mod_add_mod, show x % every + (every - x % every) = every by omega, Nat.mod_self]

/-- Whether a transmission comes among the last `left < every` numbers of a lap. -/
lemma exists_multiple_end {size every left : Nat} (hl : left < every) (hs : left ≤ size) :
    (∃ i < left, (size - left + i) % every = 0) ↔ size % every ≠ 0 ∧ size % every ≤ left := by
  constructor
  · rintro ⟨i, hi, hm⟩
    have hrest : size % every = left - i := by
      rw [show size = size - left + i + (left - i) by omega, ← Nat.mod_add_mod, hm, Nat.zero_add]
      exact Nat.mod_eq_of_lt (by omega)
    omega
  · rintro ⟨h0, hle⟩
    refine ⟨left - size % every, by omega, ?_⟩
    rw [show size - left + (left - size % every) = size - size % every by omega]
    exact Nat.mod_eq_zero_of_dvd (Nat.dvd_sub_mod size)

/-- How many of `every` numbers in a row, which restart from zero behind every lap, are multiples. -/
theorem countP_lap {size every : Nat} (he : 0 < every) (hs : every ≤ size) (a : Nat) :
    (List.range every).countP (fun i => (a + i) % size % every == 0) =
      if size % every ≠ 0 ∧ a + size % every ≤ (a / size + 1) * size ∧
        (a / size + 1) * size < a + every then 2 else 1 := by
  have hlt : a % size < size := Nat.mod_lt a (by omega)
  have hwrap : (a / size + 1) * size = a + (size - a % size) := by
    have := Nat.div_add_mod' a size
    rw [Nat.succ_mul]
    omega
  have hlap : ∀ len ≤ size - a % size,
      (List.range len).countP (fun i => (a + i) % size % every == 0) =
        (List.range len).countP (fun i => (a % size + i) % every == 0) := by
    intro len hlen
    apply List.countP_congr
    intro i hi
    have hi := List.mem_range.1 hi
    rw [← Nat.mod_add_mod, Nat.mod_eq_of_lt (show a % size + i < size by omega)]
  rw [hwrap]
  by_cases hin : every ≤ size - a % size
  · rw [hlap every hin, countP_multiples (Nat.le_refl every), if_pos (exists_multiple he),
      if_neg (by omega)]
  · -- The window goes over the end of the lap and begins the next one.
    set left := size - a % size with hleft
    obtain ⟨more, hmore⟩ : ∃ more, every = left + more := ⟨every - left, by omega⟩
    have hnext : (List.range more).countP (fun i => (a + (left + i)) % size % every == 0) = 1 := by
      have hsame : ∀ i ∈ List.range more,
          ((a + (left + i)) % size % every == 0) = true ↔ ((0 + i) % every == 0) = true := by
        intro i hi
        have hi := List.mem_range.1 hi
        have hmod : (a + (left + i)) % size = i := by
          rw [← Nat.mod_add_mod, show a % size + (left + i) = size + i by omega,
            Nat.add_mod_left, Nat.mod_eq_of_lt (by omega)]
        rw [hmod, Nat.zero_add]
      rw [List.countP_congr hsame, countP_multiples (by omega),
        if_pos ⟨0, by omega, Nat.zero_mod every⟩]
    have hend : (∃ i < left, (a % size + i) % every = 0) ↔
        size % every ≠ 0 ∧ size % every ≤ left := by
      rw [show a % size = size - left by omega]
      exact exists_multiple_end (by omega) (by omega)
    have hfirst : (List.range left).countP (fun i => (a + i) % size % every == 0) =
        if size % every ≠ 0 ∧ size % every ≤ left then 1 else 0 := by
      rw [hlap left (Nat.le_refl left), countP_multiples (by omega)]
      exact if_congr hend rfl rfl
    have hrange : List.range every = List.range left ++ (List.range more).map (left + ·) := by
      rw [hmore]
      exact List.range_add ..
    rw [hrange, List.countP_append, List.countP_map, hfirst]
    change _ + (List.range more).countP (fun i => (a + (left + i)) % size % every == 0) = _
    rw [hnext]
    by_cases hr : size % every ≠ 0 ∧ size % every ≤ left
    · rw [if_pos hr, if_pos ⟨hr.1, by omega, by omega⟩]
    · rw [if_neg hr, if_neg (fun h => hr ⟨h.1, by omega⟩)]

end Schedule

def Node.window (n : Node) (evs : List NodeEvent) (a len : Nat) : List Tick :=
  ((n.slots evs).drop a).take len

namespace Node

variable {n : Node} {config : Config} {own : MacAddress} {tag : Option VlanTag} {id : UInt16}
  {evs : List NodeEvent} {a len : Nat}

lemma offersCcm_window (ht : n.schedule.Templates config own tag)
    (hc : n.station.config = config) (hm : config.mepId = some id)
    (hseq : n.schedule.sequence = 0) {i : Nat} {t : Tick} (hi : (n.window evs a len)[i]? = some t) :
    (t.OffersCcm ↔ (a + i) % UInt32.size % (config.skips.toNat + 1) = 0) ∧
      (¬ t.OffersCcm → t.Quiet) := by
  unfold window at hi
  rw [List.getElem?_take] at hi
  split at hi
  · rw [List.getElem?_drop] at hi
    have h := offersCcm_slots ht hc hm evs hi
    rwa [hseq, show (0 : UInt32).toNat = 0 from rfl, Nat.zero_add] at h
  · exact nomatch hi

theorem countP_window (ht : n.schedule.Templates config own tag)
    (hc : n.station.config = config) (hm : config.mepId = some id)
    (hseq : n.schedule.sequence = 0) (ha : a + (config.skips.toNat + 1) ≤ (n.slots evs).length) :
    (n.window evs a (config.skips.toNat + 1)).countP (fun t => decide t.OffersCcm) =
      if Schedule.Restarts config.skips a then 2 else 1 := by
  have hlen : (n.window evs a (config.skips.toNat + 1)).length = config.skips.toNat + 1 := by
    unfold window
    rw [List.length_take, List.length_drop]
    omega
  have hat : ∀ i t, (n.window evs a (config.skips.toNat + 1))[i]? = some t →
      (decide t.OffersCcm = true ↔
        ((a + i) % UInt32.size % (config.skips.toNat + 1) == 0) = true) := by
    intro i t hi
    rw [decide_eq_true_iff, beq_iff_eq]
    exact (offersCcm_window ht hc hm hseq hi).1
  rw [countP_eq_range hat, hlen]
  exact Schedule.countP_lap (Nat.succ_pos _) config.skips.toNat_lt a

end Node

/-- Among any `k + 1` slots in a row of a new node that skips `k` slots, one transmits the continuity
check, or two where the sequence number restarts. The others offer a report to the ring at most. -/
theorem slot_cadence {config : Config} {own : MacAddress} {ids : IdSource} {start : Nat} {n : Node}
    {id : UInt16} (hn : Node.create config own ids start = .ok n) (hm : config.mepId = some id)
    (evs : List NodeEvent) (a : Nat)
    (ha : a + (config.skips.toNat + 1) ≤ (n.slots evs).length) :
    let window := n.window evs a (config.skips.toNat + 1)
    window.countP (fun t => decide t.OffersCcm) =
        (if Schedule.Restarts config.skips a then 2 else 1) ∧
      ∀ t ∈ window, ¬ t.OffersCcm → t.Quiet := by
  intro window
  obtain ⟨tag, -, ht, hstation, hseq, -⟩ := Node.of_create own ids start hn
  have hc : n.station.config = config := by rw [hstation]; rfl
  refine ⟨Node.countP_window ht hc hm hseq ha, fun t htmem => ?_⟩
  obtain ⟨i, hi⟩ := List.mem_iff_getElem?.1 htmem
  exact (Node.offersCcm_window ht hc hm hseq hi).2

/-- A node that skips two slots transmits in one of any three. -/
theorem slot_cadence_skipsTwo : ∃ n,
    Node.create { mepId := some 1, skips := 2 } ⟨2, 0, 0, 0, 0, 1⟩ ⟨fun _ => 0, 0⟩ 0 = .ok n ∧
    1 + 3 ≤ (n.slots (pacedTicks 1000 6 0)).length ∧
    (n.window (pacedTicks 1000 6 0) 1 3).countP (fun t => decide t.OffersCcm) = 1 ∧
    ∀ t ∈ n.window (pacedTicks 1000 6 0) 1 3, ¬ t.OffersCcm → t.Quiet := by
  have htag : Config.tag { mepId := some 1, skips := 2 } = .ok none := rfl
  obtain ⟨n, hn, -, hs, -, hnext⟩ :=
    Node.create_ok ⟨2, 0, 0, 0, 0, 1⟩ ⟨fun _ => 0, 0⟩ 0 htag
  have hlen := n.length_slots_paced 6
  rw [hs, hnext] at hlen
  have ha : 1 + 3 ≤ (n.slots (pacedTicks 1000 6 0)).length := by
    rw [show (n.slots (pacedTicks 1000 6 0)).length = 6 from hlen]
    decide
  obtain ⟨hcount, hquiet⟩ := slot_cadence hn rfl (pacedTicks 1000 6 0) 1 ha
  exact ⟨n, hn, ha, hcount, hquiet⟩

/-- A node that transmits once in every 4294967295 slots does so twice in a row when the sequence
numbers start anew, in the last slot of a lap and in the first one of the next. -/
theorem cadence_restarts : ∃ n,
    Node.create { mepId := some 1, interval := .ms100, skips := 4294967294 } ⟨2, 0, 0, 0, 0, 1⟩
      ⟨fun _ => 0, 0⟩ 0 = .ok n ∧
    2 + 4294967295 ≤ (n.slots (pacedTicks 100 4294967297 0)).length ∧
    (n.window (pacedTicks 100 4294967297 0) 2 4294967295).countP
      (fun t => decide t.OffersCcm) = 2 := by
  let config : Config := { mepId := some 1, interval := .ms100, skips := 4294967294 }
  have htag : config.tag = .ok none := rfl
  obtain ⟨n, hn, ht, hs, hseq, hnext⟩ :=
    Node.create_ok ⟨2, 0, 0, 0, 0, 1⟩ ⟨fun _ => 0, 0⟩ 0 htag
  have hlen := n.length_slots_paced 4294967297
  have hc : n.station.config = config := by rw [hs]; rfl
  have hperiod : n.station.config.interval.millis = 100 := by rw [hc]; rfl
  rw [hperiod, hnext] at hlen
  have hskips : config.skips.toNat + 1 = 4294967295 := rfl
  have ha : 2 + (config.skips.toNat + 1) ≤ (n.slots (pacedTicks 100 4294967297 0)).length := by
    rw [hlen, hskips]
  have hcount := Node.countP_window ht hc rfl hseq ha
  rw [if_pos (by decide)] at hcount
  exact ⟨n, hn, ha, hcount⟩

end RingContinuity
