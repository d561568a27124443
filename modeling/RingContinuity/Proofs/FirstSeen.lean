import RingContinuity.Proofs.CcmReception
import RingContinuity.Proofs.MepHistory

/-!
# End points that were seen

An end point counts as seen from the first continuity check at the station's level on, and only
then are the names in it compared. So "seen" means "accepted" for every end point but those that
were heard with other names: they are seen although nothing from them may ever have been accepted.
-/

namespace RingContinuity

/-- A continuity check at the station's level, but with other names, came from `m`. -/
def Misnamed (m : UInt16) (evs : List MepEvent) : Prop :=
  ∃ x ∈ hearings m evs, x.reception = .otherNames

namespace MepTable

/-- In a run from `t`, a continuity check from `m` is accepted. -/
def Accepts (t : MepTable) (m : UInt16) (evs : List MepEvent) : Prop :=
  ∃ before f config now after a, evs = before ++ .apply f config now :: after ∧
    ((t.run before).apply f config now).2 = .ok a ∧ a.mepId = m

end MepTable

/-! ### Acceptances -/

lemma mem_acceptances_iff {m : UInt16} {evs : List MepEvent} {x : Hearing} :
    x ∈ acceptances m evs ↔ x ∈ hearings m evs ∧ x.reception = .accepted := by
  unfold acceptances hearings MepEvent.acceptance?
  simp only [List.mem_filterMap, Option.filter_eq_some_iff, decide_eq_true_eq]
  constructor
  · rintro ⟨ev, hev, hx, hr⟩
    exact ⟨⟨ev, hev, hx⟩, hr⟩
  · rintro ⟨⟨ev, hev, hx⟩, hr⟩
    exact ⟨ev, hev, hx, hr⟩

lemma MepEvent.hearing?_apply {f : Frame} {config : Config} {c : Ccm} {m : UInt16} {now : Nat}
    (hr : Ccm.receive f config = .ok c) (hm : c.mepId = m) :
    (MepEvent.apply f config now).hearing? m = some ⟨c, config, now⟩ := by
  unfold MepEvent.hearing?
  dsimp only
  rw [hr]
  dsimp only
  rw [if_pos hm]

namespace MepTable

/-- Whether a frame is accepted can be told from the frame and the configuration alone. -/
theorem apply_ok_iff (t : MepTable) (f : Frame) (config : Config) (now : Nat) (m : UInt16) :
    (∃ a, (t.apply f config now).2 = .ok a ∧ a.mepId = m) ↔
      ∃ x, (MepEvent.apply f config now).acceptance? m = some x := by
  unfold MepEvent.acceptance?
  simp only [Option.filter_eq_some_iff, decide_eq_true_eq]
  rcases t.apply_cases f config now with ⟨_, hr, h⟩ | ⟨c, hr, ⟨hl, h⟩ | ⟨hl, ⟨_, hn, h⟩ | ⟨hn, h⟩⟩⟩ <;>
    simp [MepEvent.hearing?, Hearing.reception, Except.isOk, Except.toBool, *]

lemma accepts_iff (t : MepTable) (m : UInt16) (evs : List MepEvent) :
    t.Accepts m evs ↔ ∃ x, x ∈ acceptances m evs := by
  constructor
  · rintro ⟨before, f, config, now, after, a, rfl, ha, hm⟩
    obtain ⟨x, hx⟩ := ((t.run before).apply_ok_iff f config now m).1 ⟨a, ha, hm⟩
    exact ⟨x, List.mem_filterMap.2 ⟨_, List.mem_append_right _ List.mem_cons_self, hx⟩⟩
  · rintro ⟨x, hmem⟩
    obtain ⟨ev, hev, hx⟩ := List.mem_filterMap.1 hmem
    obtain ⟨before, after, rfl⟩ := List.append_of_mem hev
    clear hmem hev
    cases ev with
    | sweep now => exact nomatch hx
    | apply f config now =>
      obtain ⟨a, ha, hm⟩ := ((t.run before).apply_ok_iff f config now m).2 ⟨x, hx⟩
      exact ⟨before, f, config, now, after, a, rfl, ha, hm⟩

end MepTable

/-! ### Seen and accepted -/

/-- What makes an end point active: an acceptance, or a check with other names. -/
theorem active_ofHistory_iff (i : CcmInterval) (m : UInt16) (evs : List MepEvent) :
    (RemoteMep.ofHistory i m evs).active = true ↔
      (∃ x, x ∈ acceptances m evs) ∨ Misnamed m evs := by
  unfold RemoteMep.ofHistory
  dsimp only
  rw [List.any_eq_true]
  constructor
  · rintro ⟨x, hx, hr⟩
    have hne : x.reception ≠ .otherLevel := of_decide_eq_true hr
    cases h : x.reception with
    | otherLevel => exact absurd h hne
    | otherNames => exact .inr ⟨x, hx, h⟩
    | accepted => exact .inl ⟨x, mem_acceptances_iff.2 ⟨hx, h⟩⟩
  · rintro (⟨x, hx⟩ | ⟨x, hx, h⟩)
    · obtain ⟨hx, h⟩ := mem_acceptances_iff.1 hx
      exact ⟨x, hx, by rw [h]; rfl⟩
    · exact ⟨x, hx, by rw [h]; rfl⟩

lemma RemoteMep.state_eq_unseen_iff (e : RemoteMep) : e.state = .unseen ↔ e.active = false := by
  unfold RemoteMep.state
  cases e.active <;> cases e.defect <;> decide

namespace MepTable

lemma inactive_run_iff (i : CcmInterval) (evs : List MepEvent) (m : UInt16) :
    (((empty i).run evs).entry m).active = false ↔
      ¬ (empty i).Accepts m evs ∧ ¬ Misnamed m evs := by
  rw [entry_run, ← Bool.not_eq_true, active_ofHistory_iff, not_or, accepts_iff]

/-- After any events, an end point is unseen, and a check from it is marked as the first, if and
only if no check from it was accepted and none came with other names. -/
theorem seen_iff_accepted_or_misnamed (i : CcmInterval) (evs : List MepEvent) (m : UInt16) :
    let t := (empty i).run evs
    ((t.entry m).state = .unseen ↔ ¬ (empty i).Accepts m evs ∧ ¬ Misnamed m evs) ∧
    ∀ f config now a, (t.apply f config now).2 = .ok a → a.mepId = m →
      (a.firstSeen = true ↔ ¬ (empty i).Accepts m evs ∧ ¬ Misnamed m evs) := by
  intro t
  refine ⟨?_, fun f config now a ha hm => ?_⟩
  · rw [RemoteMep.state_eq_unseen_iff]
    exact inactive_run_iff i evs m
  · rw [← inactive_run_iff, ← hm]
    rcases t.apply_cases f config now with ⟨_, -, h⟩ | ⟨c, -, ⟨-, h⟩ | ⟨-, ⟨_, -, h⟩ | ⟨-, h⟩⟩⟩ <;>
      rw [h] at ha
    · exact nomatch ha
    · exact nomatch ha
    · exact nomatch ha
    · cases ha
      change (!(t.entry c.mepId).active) = true ↔ _
      rw [Bool.not_eq_true']

/-- What the end point 7 of a station that was not told otherwise says. -/
def saidBySeven : Ccm := .said { mepId := some 7 } ⟨2, 0, 0, 0, 0, 2⟩ 7 0

lemma exists_saidBySeven : ∃ f, ∀ receiver : Config, receiver.vlan = 0 → receiver.mepId ≠ some 7 →
    Ccm.receive f receiver = .ok saidBySeven := by
  have hvalid : Config.Valid { mepId := some 7 } := Config.valid_of_validate rfl
  have hm : Config.mepId { mepId := some 7 } = some 7 := rfl
  have ht : Config.tag { mepId := some 7 } = .ok none := rfl
  obtain ⟨f, -, hf⟩ := Ccm.build_ok ⟨2, 0, 0, 0, 0, 2⟩ hm ht
  rw [← List.append_nil (Ccm.ownPayload _ 7 0)] at hf
  exact ⟨f, fun receiver hv hm => Ccm.receive_own hvalid rfl rfl hv hm hf⟩

lemma reception_saidBySeven : (∀ now, (Hearing.mk saidBySeven {} now).reception = .accepted) ∧
    ∀ now, (Hearing.mk saidBySeven { associationName := "OTHER" } now).reception = .otherNames := by
  have hnames : saidBySeven.maid.checkNames "HCL" "HCL_ERPS" = .ok () := by decide +kernel
  have hother : (saidBySeven.maid.checkNames "HCL" "OTHER").isOk = false := by decide +kernel
  refine ⟨fun now => ?_, fun now => ?_⟩ <;> unfold Hearing.reception
  · dsimp only
    rw [if_neg (by decide), hnames]
    rfl
  · dsimp only
    rw [if_neg (by decide), hother]
    rfl

/-- The first check from the end point 7 is accepted, and the second one is not the first. -/
theorem seen_iff_accepted_or_misnamed_seven : ∃ f a,
    (((empty .sec1).run [.apply f {} 0]).apply f {} 1000).2 = .ok a ∧ a.mepId = 7 ∧
    (a.firstSeen = true ↔ ¬ (empty .sec1).Accepts 7 [.apply f {} 0] ∧
      ¬ Misnamed 7 [.apply f {} 0]) ∧ a.firstSeen = false := by
  obtain ⟨f, hf⟩ := exists_saidBySeven
  have hx : ∀ now, (MepEvent.apply f {} now).acceptance? 7 = some ⟨saidBySeven, {}, now⟩ := by
    intro now
    have hh : (MepEvent.apply f {} now).hearing? 7 = some ⟨saidBySeven, {}, now⟩ :=
      MepEvent.hearing?_apply (hf {} rfl (by decide)) rfl
    unfold MepEvent.acceptance?
    rw [hh, Option.filter_some, reception_saidBySeven.1 now]
    rfl
  obtain ⟨a, ha, hm⟩ := (((empty .sec1).run [.apply f {} 0]).apply_ok_iff f {} 1000 7).2 ⟨_, hx 1000⟩
  have hiff := (seen_iff_accepted_or_misnamed .sec1 [.apply f {} 0] 7).2 f {} 1000 a ha hm
  have hfirst : (empty .sec1).Accepts 7 [.apply f {} 0] := by
    rw [accepts_iff]
    exact ⟨_, List.mem_filterMap.2 ⟨_, List.mem_cons_self, hx 0⟩⟩
  exact ⟨f, a, ha, hm, hiff, Bool.eq_false_iff.2 fun h => (hiff.1 h).1 hfirst⟩

/-- A check with other names makes its end point seen, and the first check that is accepted
afterwards is not marked as the first. -/
theorem seen_without_acceptance : ∃ f,
    let t := (empty .sec1).run [.apply f { associationName := "OTHER" } 0]
    ¬ (empty .sec1).Accepts 7 [.apply f { associationName := "OTHER" } 0] ∧
      (t.entry 7).state = .healthy ∧ (t.apply f {} 1000).2 = .ok ⟨7, false, false⟩ := by
  obtain ⟨f, hf⟩ := exists_saidBySeven
  have hother := hf { associationName := "OTHER" } rfl (by decide)
  have ht : (empty .sec1).run [.apply f { associationName := "OTHER" } 0] =
      (empty .sec1).set 7 { active := true, levelEqual := true } := by
    change ((empty .sec1).apply f { associationName := "OTHER" } 0).1 = _
    unfold apply
    rw [hother]
    decide +kernel
  refine ⟨f, ?_, ?_, ?_⟩
  · rw [accepts_iff]
    rintro ⟨x, hx⟩
    obtain ⟨hx, hr⟩ := mem_acceptances_iff.1 hx
    have hh : (MepEvent.apply f { associationName := "OTHER" } 0).hearing? 7 =
        some ⟨saidBySeven, { associationName := "OTHER" }, 0⟩ := MepEvent.hearing?_apply hother rfl
    obtain ⟨ev, hev, hx⟩ := List.mem_filterMap.1 hx
    rw [List.mem_singleton.1 hev, hh] at hx
    cases hx
    rw [reception_saidBySeven.2 0] at hr
    exact nomatch hr
  · rw [ht]
    rfl
  · rw [ht]
    unfold apply
    rw [hf {} rfl (by decide)]
    decide +kernel

end MepTable
end RingContinuity
