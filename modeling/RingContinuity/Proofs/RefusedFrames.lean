import RingContinuity.Proofs.FrameBuilding
import RingContinuity.Proofs.NodeRun

/-!
# Refused frames

A frame that a node refuses makes no difference to anything that the node does later. At most it
touches two flags of one end point, and nothing but the report that an end point was seen for the
first time depends on these flags. The proof follows two runs side by side, of which one leaves
refused frames out.
-/

namespace RingContinuity

/-! ### Entries and tables that differ in flags only -/

namespace RemoteMep

/-- The entry without the flags that a refused continuity check may set or clear. -/
def unflagged (e : RemoteMep) : RemoteMep := { e with active := false, levelEqual := false }

/-- Entries that differ at most in these flags, where whoever has a deadline is active. -/
structure Alike (e e' : RemoteMep) : Prop where
  unflagged : e.unflagged = e'.unflagged
  left : e.expiresAt.isSome = true → e.active = true
  right : e'.expiresAt.isSome = true → e'.active = true

namespace Alike

variable {e e' : RemoteMep}

lemma default : Alike {} {} := ⟨rfl, (fun h => nomatch h), (fun h => nomatch h)⟩

lemma symm (h : e.Alike e') : e'.Alike e := ⟨h.unflagged.symm, h.right, h.left⟩

lemma defect (h : e.Alike e') : e.defect = e'.defect := by
  have hd := congrArg RemoteMep.defect h.unflagged
  exact hd

lemma expiresAt (h : e.Alike e') : e.expiresAt = e'.expiresAt := by
  have hx := congrArg RemoteMep.expiresAt h.unflagged
  exact hx

/-- An end point that was made active without a deadline is never overdue. -/
lemma isOverdue (h : e.Alike e') (now : Nat) : e.isOverdue now = e'.isOverdue now := by
  rw [isOverdue_eq h.left, isOverdue_eq h.right, h.defect, h.expiresAt]

lemma swept (h : e.Alike e') (now : Nat) : (e.swept now).Alike (e'.swept now) := by
  refine ⟨?_, h.left, h.right⟩
  have hs : ∀ d : RemoteMep, (d.swept now).unflagged =
      { d.unflagged with defect := d.defect || d.isOverdue now } := fun _ => rfl
  rw [hs, hs, h.unflagged, h.defect, h.isOverdue]

lemma seen_left (h : e.Alike e') : e.seen.Alike e' := ⟨h.unflagged, fun _ => rfl, h.right⟩

lemma otherLevel_left (h : e.Alike e') : Alike { e with levelEqual := false } e' :=
  ⟨h.unflagged, h.left, h.right⟩

lemma accepted (h : e.Alike e') (c : Ccm) (deadline : Nat) :
    (e.seen.refresh c deadline).Alike (e'.seen.refresh c deadline) := by
  refine ⟨?_, fun _ => rfl, fun _ => rfl⟩
  have hs := congrArg RemoteMep.portStatus h.unflagged
  have hi := congrArg RemoteMep.interfaceStatus h.unflagged
  dsimp only [RemoteMep.unflagged] at hs hi
  dsimp only [RemoteMep.unflagged, refresh, seen]
  rw [hs, hi]

end Alike
end RemoteMep

/-- The acceptance without the report that the end point was seen for the first time. -/
def CcmAccepted.unmarked (a : CcmAccepted) : CcmAccepted := { a with firstSeen := false }

namespace MepTable

structure Alike (t u : MepTable) : Prop where
  lossThreshold : t.lossThreshold = u.lossThreshold
  entries : ∀ id, (t.entry id).Alike (u.entry id)

lemma alike_empty (i : CcmInterval) : (empty i).Alike (empty i) := ⟨rfl, fun _ => .default⟩

namespace Alike

variable {t u : MepTable}

lemma sweep (h : t.Alike u) (now : Nat) :
    (t.sweep now).1.Alike (u.sweep now).1 ∧ (t.sweep now).2 = (u.sweep now).2 := by
  refine ⟨⟨h.lossThreshold, fun id => ?_⟩, sweep_congr now fun id => (h.entries id).isOverdue now⟩
  rw [entry_sweep, entry_sweep]
  exact (h.entries id).swept now

lemma set_left (h : t.Alike u) {id : UInt16} {e : RemoteMep} (he : e.Alike (u.entry id)) :
    (t.set id e).Alike u := by
  refine ⟨h.lossThreshold, fun k => ?_⟩
  rw [entry_set]
  by_cases hk : k = id
  · rw [if_pos hk, hk]
    exact he
  · rw [if_neg hk]
    exact h.entries k

lemma set (h : t.Alike u) (id : UInt16) {e e' : RemoteMep} (he : e.Alike e') :
    (t.set id e).Alike (u.set id e') := by
  refine ⟨h.lossThreshold, fun k => ?_⟩
  rw [entry_set, entry_set]
  by_cases hk : k = id
  · rw [if_pos hk, if_pos hk]
    exact he
  · rw [if_neg hk, if_neg hk]
    exact h.entries k

/-- Tables that are alike take a frame alike. -/
theorem apply (h : t.Alike u) (f : Frame) (config : Config) (now : Nat) :
    (t.apply f config now).1.Alike (u.apply f config now).1 ∧
      (t.apply f config now).2.map CcmAccepted.unmarked =
        (u.apply f config now).2.map CcmAccepted.unmarked := by
  unfold MepTable.apply
  cases Ccm.receive f config with
  | error err => exact ⟨h, rfl⟩
  | ok c =>
    have he := h.entries c.mepId
    dsimp only
    by_cases hl : c.level ≠ config.level
    · rw [if_pos hl, if_pos hl]
      exact ⟨h.set _ he.otherLevel_left.symm.otherLevel_left.symm, rfl⟩
    · rw [if_neg hl, if_neg hl]
      cases c.maid.checkNames config.domainName config.associationName with
      | error err => exact ⟨h.set _ he.seen_left.symm.seen_left.symm, rfl⟩
      | ok _ =>
        refine ⟨?_, ?_⟩
        · dsimp only
          rw [h.lossThreshold]
          exact h.set _ (he.accepted c _)
        · dsimp only [Except.map, CcmAccepted.unmarked]
          rw [he.defect]

/-- A table that has refused a frame is like one that never saw it. -/
theorem apply_refused_left (h : t.Alike u) {f : Frame} {config : Config} {now : Nat}
    {cause : Error} (hr : (t.apply f config now).2 = .error cause) :
    (t.apply f config now).1.Alike u := by
  rcases t.apply_cases f config now with ⟨_, -, ha⟩ | ⟨c, -, ⟨-, ha⟩ | ⟨-, ⟨_, -, ha⟩ | ⟨-, ha⟩⟩⟩ <;>
    rw [ha] at hr ⊢
  · exact h
  · exact h.set_left (h.entries c.mepId).otherLevel_left
  · exact h.set_left (h.entries c.mepId).seen_left
  · exact nomatch hr

end Alike

/-- What a refused frame may leave in a table: other flags of the end point that a continuity check
at another level or with other names came from, and nothing if the frame was malformed. -/
theorem apply_refused {t : MepTable} {f : Frame} {config : Config} {now : Nat} {cause : Error}
    (h : (t.apply f config now).2 = .error cause) :
    (t.apply f config now).1 = t ∨
      (∀ m, cause ≠ .malformed m) ∧
      ∃ c e, Ccm.receive f config = .ok c ∧
        (c.level ≠ config.level ∨
          (c.maid.checkNames config.domainName config.associationName).isOk = false) ∧
        e.unflagged = (t.entry c.mepId).unflagged ∧
        (t.apply f config now).1 = t.set c.mepId e := by
  rcases t.apply_cases f config now with
    ⟨_, -, ha⟩ | ⟨c, hc, ⟨hl, ha⟩ | ⟨-, ⟨err, hn, ha⟩ | ⟨-, ha⟩⟩⟩ <;> rw [ha] at h ⊢
  · exact .inl rfl
  · refine .inr ⟨?_, c, { t.entry c.mepId with levelEqual := false }, hc, .inl hl, rfl, rfl⟩
    cases h
    exact fun m hm => nomatch hm
  · refine .inr ⟨?_, c, (t.entry c.mepId).seen, hc, .inr (by rw [hn]; rfl), rfl, rfl⟩
    cases h
    -- The names are compared and nothing is read, so that this is never a malformed frame.
    unfold Maid.checkNames at hn
    intro m hm
    subst hm
    split_ifs at hn
    all_goals exact nomatch hn
  · exact nomatch h

end MepTable

/-! ### Nodes -/

def Dispatched.unmarked : Dispatched → Dispatched
  | .ccm a => .ccm a.unmarked
  | d => d

def Answer.unmarked : Answer → Answer
  | .dispatched result => .dispatched (result.map Dispatched.unmarked)
  | a => a

def Showing.unmarked (s : Showing) : Showing := { s with answer := s.answer.unmarked }

namespace Node

/-- Nodes that differ at most in flags of their tables. -/
structure Alike (n n' : Node) : Prop where
  rest : n' = n.withMeps n'.station.meps
  meps : n.station.meps.Alike n'.station.meps

lemma alike_withMeps {n : Node} {t u : MepTable} (h : t.Alike u) :
    (n.withMeps t).Alike (n.withMeps u) := ⟨rfl, h⟩

/-- Nodes that are alike offer the same at every event and answer alike. -/
theorem Alike.at_event {n n' : Node} (h : n.Alike n') (ev : NodeEvent) :
    (n.turn ev).1.Alike (n'.turn ev).1 ∧ (n.turn ev).2.offered = (n'.turn ev).2.offered ∧
      ∀ verdicts, ((n.turn ev).2.answer verdicts).unmarked =
        ((n'.turn ev).2.answer verdicts).unmarked := by
  obtain ⟨hn, hm⟩ := h
  generalize n'.station.meps = u at hn hm
  subst hn
  have hpass : n.Bypasses ev → (n.turn ev).1.Alike ((n.withMeps u).turn ev).1 ∧
      (n.turn ev).2.offered = ((n.withMeps u).turn ev).2.offered ∧
      ∀ verdicts, ((n.turn ev).2.answer verdicts).unmarked =
        (((n.withMeps u).turn ev).2.answer verdicts).unmarked := by
    intro hb
    rw [hb u]
    refine ⟨⟨rfl, ?_⟩, rfl, fun _ => rfl⟩
    rw [hb.meps]
    exact hm
  cases ev with
  | tick now =>
    obtain ⟨hs, hl⟩ := hm.sweep now
    have ht : (n.withMeps u).turn (.tick now) =
        ((n.turn (.tick now)).1.withMeps (u.sweep now).1, (n.turn (.tick now)).2) := by
      rw [turn_tick, turn_tick, tick_withMeps hl.symm]
    have hd : (n.turn (.tick now)).1.station.meps = (n.station.meps.sweep now).1 := n.meps_tick now
    rw [ht]
    refine ⟨⟨rfl, ?_⟩, rfl, fun _ => rfl⟩
    rw [hd]
    exact hs
  | receive f now =>
    by_cases hf : Station.IsCcm f
    · obtain ⟨ha, hr⟩ := hm.apply f n.station.config now
      rw [turn_receive, turn_receive, dispatch_ccm hf, dispatch_ccm hf, config_withMeps,
        meps_withMeps]
      generalize n.station.meps.apply f n.station.config now = x at ha hr
      generalize u.apply f n.station.config now = y at ha hr
      obtain ⟨t, x⟩ := x
      obtain ⟨t', y⟩ := y
      -- The verdicts play no part, for neither node offers anything.
      cases x with
      | error cause => cases y with
        | error cause' =>
          cases hr
          exact ⟨alike_withMeps ha, rfl, fun _ => rfl⟩
        | ok b => exact nomatch hr
      | ok a => cases y with
        | error cause' => exact nomatch hr
        | ok b =>
          have hab : a.unmarked = b.unmarked := Except.ok.inj hr
          refine ⟨alike_withMeps ha, rfl, fun _ => ?_⟩
          change Answer.dispatched (.ok (.ccm a.unmarked)) = .dispatched (.ok (.ccm b.unmarked))
          rw [hab]
    · exact hpass (bypasses_receive hf n now)
  | linktrace target ttl now => exact hpass (n.bypasses_linktrace target ttl now)
  | note entry => exact hpass fun _ => rfl
  | draw => exact hpass fun _ => rfl
  | reseed ids => exact hpass fun _ => rfl

lemma dispatch_ccm_refused {f : Frame} (hf : Station.IsCcm f) {n : Node} {now : Nat}
    {cause : Error} (h : (n.dispatch f now).2 = .refused cause) :
    (n.dispatch f now).1 = n.withMeps (n.station.meps.apply f n.station.config now).1 ∧
      (n.station.meps.apply f n.station.config now).2 = .error cause := by
  rw [dispatch_ccm hf] at h ⊢
  refine ⟨rfl, ?_⟩
  generalize (n.station.meps.apply f n.station.config now).2 = x at h
  cases x with
  | error err =>
    cases h
    rfl
  | ok a => exact nomatch h

/-- A node that has refused a frame is like one that never received it. -/
theorem Alike.refused_left {n n' : Node} (h : n.Alike n') {f : Frame} {now : Nat} {cause : Error}
    (hr : (n.dispatch f now).2 = .refused cause) : (n.dispatch f now).1.Alike n' := by
  obtain ⟨hn, hm⟩ := h
  generalize n'.station.meps = u at hn hm
  subst hn
  by_cases hf : Station.IsCcm f
  · obtain ⟨hd, hres⟩ := dispatch_ccm_refused hf hr
    rw [hd]
    exact ⟨rfl, hm.apply_refused_left hres⟩
  · rw [dispatch_other_refused hf hr]
    exact ⟨rfl, hm⟩

end Node

/-! ### Runs from which refused frames are deleted -/

/-- Every event that is marked for deletion is a frame that the node refuses when it comes. -/
def WiredNode.DeletesRefused : WiredNode → List (NodeEvent × Bool) → Prop
  | _, [] => True
  | h, (ev, deleted) :: evs =>
    (deleted = true →
      ∃ f now cause, ev = .receive f now ∧ (h.node.dispatch f now).2 = .refused cause) ∧
    (h.step ev).1.DeletesRefused evs

/-- The events that are not marked for deletion. -/
def kept (evs : List (NodeEvent × Bool)) : List NodeEvent := (evs.filter (!·.2)).map (·.1)

namespace WiredNode

/-- What these events show in the run with all events. -/
def keptLog (h : WiredNode) (evs : List (NodeEvent × Bool)) : List Showing :=
  (((h.log (evs.map (·.1))).zip evs).filter (!·.2.2)).map (·.1)

structure Alike (h h' : WiredNode) : Prop where
  node : h.node.Alike h'.node
  wire : h.wire = h'.wire

theorem Alike.step {h h' : WiredNode} (ha : h.Alike h') (ev : NodeEvent) :
    (h.step ev).1.Alike (h'.step ev).1 ∧ (h.step ev).2.unmarked = (h'.step ev).2.unmarked := by
  obtain ⟨hn, ho, hv⟩ := ha.node.at_event ev
  unfold WiredNode.step
  dsimp only [Showing.unmarked]
  rw [ha.wire, ho, hv]
  exact ⟨⟨hn, rfl⟩, rfl⟩

lemma Alike.refused_left {h h' : WiredNode} (ha : h.Alike h') {f : Frame} {now : Nat}
    {cause : Error} (hr : (h.node.dispatch f now).2 = .refused cause) :
    (h.step (.receive f now)).1.Alike h' := by
  refine ⟨ha.node.refused_left hr, ?_⟩
  change (h.wire.offerAll now (h.node.dispatch f now).2.offered?.toList).1 = _
  rw [hr]
  exact ha.wire

theorem Alike.run {h h' : WiredNode} (ha : h.Alike h') (evs : List (NodeEvent × Bool))
    (hevs : h.DeletesRefused evs) :
    (h.run (evs.map (·.1))).Alike (h'.run (kept evs)) ∧
      (h.keptLog evs).map Showing.unmarked = (h'.log (kept evs)).map Showing.unmarked := by
  induction evs generalizing h h' with
  | nil => exact ⟨ha, rfl⟩
  | cons ev evs ih =>
    obtain ⟨ev, deleted⟩ := ev
    obtain ⟨hdel, hrest⟩ := hevs
    cases deleted with
    | true =>
      obtain ⟨f, now, cause, rfl, hr⟩ := hdel rfl
      exact ih (ha.refused_left hr) hrest
    | false =>
      obtain ⟨hs, hl⟩ := ha.step ev
      obtain ⟨hrun, hlog⟩ := ih hs hrest
      refine ⟨hrun, ?_⟩
      have hk : h.keptLog ((ev, false) :: evs) = (h.step ev).2 :: (h.step ev).1.keptLog evs := rfl
      have hk' : kept ((ev, false) :: evs) = ev :: kept evs := rfl
      rw [hk, hk', log, List.map_cons, List.map_cons, hl, hlog]

end WiredNode

lemma Node.alike_create {config : Config} {own : MacAddress} {ids : IdSource} {start : Nat}
    {n : Node} (hn : Node.create config own ids start = .ok n) : n.Alike n := by
  refine ⟨n.withMeps_self.symm, ?_⟩
  rw [Node.station_create hn]
  exact MepTable.alike_empty config.interval

/-- Refused frames are inert. Deleting any of them from a run of a new node changes neither what
the other events show, up to the report that an end point was seen for the first time, nor the
frames on the link, nor the node, up to two flags of its entries. At every point of the run, a
refused frame leaves the node as it is, or changes these flags of the end point that a continuity
check at another level or with other names came from; a malformed one always leaves it as it is. -/
theorem refused_frames_inert {config : Config} {own : MacAddress} {ids : IdSource} {start : Nat}
    {n : Node} (hn : Node.create config own ids start = .ok n) (w : Wire)
    (evs : List (NodeEvent × Bool)) (hevs : WiredNode.DeletesRefused ⟨n, w⟩ evs) :
    let h : WiredNode := ⟨n, w⟩
    let all := h.run (evs.map (·.1))
    let rest := h.run (kept evs)
    (h.keptLog evs).map Showing.unmarked = (h.log (kept evs)).map Showing.unmarked ∧
    all.wire = rest.wire ∧
    all.node.schedule = rest.node.schedule ∧
    all.node.station.outstanding = rest.node.station.outstanding ∧
    all.node.station.ids = rest.node.station.ids ∧
    (∀ id, (all.node.station.meps.entry id).unflagged =
      (rest.node.station.meps.entry id).unflagged) ∧
    ∀ f now cause, (all.node.dispatch f now).2 = .refused cause →
      (all.node.dispatch f now).1 = all.node ∨
        (∀ m, cause ≠ .malformed m) ∧
        ∃ c e, Ccm.receive f all.node.station.config = .ok c ∧
          (c.level ≠ all.node.station.config.level ∨
            (c.maid.checkNames all.node.station.config.domainName
              all.node.station.config.associationName).isOk = false) ∧
          e.unflagged = (all.node.station.meps.entry c.mepId).unflagged ∧
          (all.node.dispatch f now).1 =
            all.node.withMeps (all.node.station.meps.set c.mepId e) := by
  intro h all rest
  obtain ⟨hrun, hlog⟩ := WiredNode.Alike.run (h := h) ⟨Node.alike_create hn, rfl⟩ evs hevs
  obtain ⟨hnode, hmeps⟩ := hrun.node
  refine ⟨hlog, hrun.wire, ?_, ?_, ?_, fun id => (hmeps.entries id).unflagged, ?_⟩
  · exact (congrArg Node.schedule hnode).symm
  · exact (congrArg (·.station.outstanding) hnode).symm
  · exact (congrArg (·.station.ids) hnode).symm
  · intro f now cause hr
    by_cases hf : Station.IsCcm f
    · obtain ⟨hd, hres⟩ := Node.dispatch_ccm_refused hf hr
      rw [hd]
      rcases MepTable.apply_refused hres with hsame | ⟨hm, c, e, hc, hwhy, he, hset⟩
      · rw [hsame]
        exact .inl rfl
      · rw [hset]
        exact .inr ⟨hm, c, e, hc, hwhy, he, rfl⟩
    · exact .inl (Node.dispatch_other_refused hf hr)

/-- A continuity check of the end point 7 at level 5, without names and records. -/
def strayCcm : Frame where
  octets := List.replicate 12 2 ++ [0x89, 0x02, 0xA0, 1, 4, 70, 0, 0, 0, 0, 0, 7, 1, 32, 0] ++
    List.replicate 62 0
  kind := none
  length_le := by decide

lemma receive_strayCcm : Ccm.receive strayCcm {} =
    .ok ⟨⟨2, 2, 2, 2, 2, 2⟩, 5, 4, 0, 7, ⟨1, [], 32, []⟩, none, none⟩ := by decide +kernel

/-- A station at level 0 receives the stray check, then a frame of zeros, and then it ticks. -/
def strayRun : List (NodeEvent × Bool) :=
  [(.receive strayCcm 5, true), (.receive ⟨List.replicate 60 0, none, by decide⟩ 6, true),
    (.tick 7, false)]

theorem refused_frames_inert_strayRun : ∃ n,
    Node.create {} ⟨2, 0, 0, 0, 0, 1⟩ ⟨fun _ => 0, 0⟩ 0 = .ok n ∧
    let h : WiredNode := ⟨n, { verdict := fun _ _ => .ok () }⟩
    h.DeletesRefused strayRun ∧
      (h.keptLog strayRun).map Showing.unmarked = (h.log [.tick 7]).map Showing.unmarked := by
  have htag : Config.tag {} = .ok none := rfl
  obtain ⟨n, hn, -⟩ := Node.create_ok ⟨2, 0, 0, 0, 0, 1⟩ ⟨fun _ => 0, 0⟩ 0 htag
  have hccm : (n.dispatch strayCcm 5).2 = .refused (.mismatch (.level 7 5 0)) := by
    rw [Node.dispatch_ccm ⟨rfl, rfl⟩, Node.station_create hn]
    unfold MepTable.apply
    dsimp only [Station.create]
    rw [receive_strayCcm]
    rfl
  have hdel : WiredNode.DeletesRefused ⟨n, { verdict := fun _ _ => .ok () }⟩ strayRun :=
    ⟨fun _ => ⟨_, _, _, rfl, hccm⟩, fun _ => ⟨_, _, .mismatch .notCfm, rfl, rfl⟩,
      (fun h => nomatch h), trivial⟩
  exact ⟨n, hn, hdel, (refused_frames_inert hn _ strayRun hdel).1⟩

end RingContinuity
