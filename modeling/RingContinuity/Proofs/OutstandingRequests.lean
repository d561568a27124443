import RingContinuity.Proofs.SignalFail

/-!
# Requests that a node waits for

Whatever happens to a node, at most one note is taken of its outstanding requests at a time. A node
that has asked once therefore waits for a reply ever after, to this request or to a later one.
-/

namespace RingContinuity

namespace Station

/-- A received frame leaves the outstanding requests alone, or one reply is noted. -/
lemma outstanding_dispatch (s : Station) (f : Frame) (now : Nat) :
    (s.dispatch f now).1.outstanding = s.outstanding ∨
      (s.dispatch f now).1.outstanding = s.outstanding.countLoopbackReply ∨
      ∃ id reply, (s.dispatch f now).1.outstanding =
        s.outstanding.recordLinktraceReply id reply := by
  unfold dispatch
  split
  · exact .inl rfl
  · split
    · exact .inl rfl
    · exact .inl rfl
    · exact .inl rfl
    · unfold dispatchLbr
      split
      · exact .inl rfl
      · split
        · exact .inl rfl
        · exact .inr (.inl rfl)
    · exact .inl rfl
    · unfold dispatchLtr recordLtr
      split
      · exact .inl rfl
      · split
        · exact .inl rfl
        · next reply _ => exact .inr (.inr ⟨_, reply, rfl⟩)
    · exact .inl rfl

end Station

namespace Node

variable (n : Node) (now : Nat)

/-- A slot in which a loopback message is sent waits for the reply to it from then on. -/
lemma outstanding_runSlot {f : Frame} (hs : n.stampedLbm? = some f)
    (hf : f ∈ (n.runSlot now).2.2) : (n.runSlot now).1.station.outstanding =
      n.station.outstanding.awaitLoopback n.schedule.nextLbmId := by
  unfold runSlot at hf ⊢
  by_cases hd : now < n.schedule.nextSlot
  · rw [if_pos hd] at hf
    exact nomatch hf
  · rw [if_neg hd] at hf ⊢
    by_cases hk : n.schedule.transmits n.station.config.skips = true
    · rw [if_pos hk]
      unfold transmit
      rw [hs]
      rfl
    · rw [if_neg hk] at hf
      exact nomatch hf

lemma outstanding_tick : (n.tick now).1.station.outstanding = n.station.outstanding ∨
    (n.tick now).1.station.outstanding =
      n.station.outstanding.awaitLoopback n.schedule.nextLbmId := by
  change (n.runSlot now).1.station.outstanding = _ ∨ (n.runSlot now).1.station.outstanding = _
  unfold runSlot
  by_cases hd : now < n.schedule.nextSlot
  · rw [if_pos hd]
    exact .inl rfl
  · rw [if_neg hd]
    by_cases hk : n.schedule.transmits n.station.config.skips = true
    · rw [if_pos hk]
      unfold transmit
      cases n.stampedLbm? with
      | none => exact .inl rfl
      | some lbm => exact .inr rfl
    · rw [if_neg hk]
      exact .inl rfl

theorem outstanding_turn (ev : NodeEvent) :
    (n.turn ev).1.station.outstanding = n.station.outstanding ∨
      ∃ entry, (n.turn ev).1.station.outstanding = n.station.outstanding.noted entry := by
  cases ev with
  | tick now => exact (n.outstanding_tick now).imp_right fun h => ⟨.awaitLoopback _, h⟩
  | receive f now =>
    rcases n.station.outstanding_dispatch f now with hsame | hcount | ⟨id, reply, hrecord⟩
    · exact .inl hsame
    · exact .inr ⟨.countLoopbackReply, hcount⟩
    · exact .inr ⟨.recordLinktraceReply id reply, hrecord⟩
  | linktrace target ttl now =>
    unfold turn linktrace Station.linktrace
    dsimp only [Station.drawId]
    cases Linktrace.buildRequest n.station.config n.station.own target n.station.ids.draw.1
      (ttl.getD Linktrace.defaultTtl) with
    | error cause => exact .inl rfl
    | ok f => exact .inr ⟨.startLinktrace _ target, rfl⟩
  | note entry => exact .inr ⟨entry, rfl⟩
  | draw => exact .inl rfl
  | reseed ids => exact .inl rfl

end Node

/-! ### Waiting -/

namespace Outstanding

variable {o : Outstanding} (entry : Note)

lemma isSome_loopback_noted (h : o.loopback.isSome = true) :
    (o.noted entry).loopback.isSome = true := by
  cases entry with
  | awaitLoopback id => rfl
  | countLoopbackReply => exact h
  | startLinktrace id target => exact h
  | recordLinktraceReply id reply => exact h

lemma isSome_linktrace_noted (h : o.linktrace.isSome = true) :
    (o.noted entry).linktrace.isSome = true := by
  cases entry with
  | awaitLoopback id => exact h
  | countLoopbackReply => exact h
  | startLinktrace id target => rfl
  | recordLinktraceReply id reply => exact (Option.isSome_map ..).trans h

end Outstanding

namespace WiredNode

/-- What no note undoes lasts over every run. -/
theorem outstanding_run {P : Outstanding → Prop} (hP : ∀ o entry, P o → P (o.noted entry))
    {h : WiredNode} (h0 : P h.node.station.outstanding) (evs : List NodeEvent) :
    P (h.run evs).node.station.outstanding := by
  induction evs generalizing h with
  | nil => exact h0
  | cons ev evs ih =>
    apply ih
    change P (h.node.turn ev).1.station.outstanding
    rcases h.node.outstanding_turn ev with hsame | ⟨entry, hnoted⟩
    · rw [hsame]
      exact h0
    · rw [hnoted]
      exact hP _ entry h0

/-- A node that has sent a loopback message waits for a reply to it or to a later one. -/
lemma exists_loopback_run {h : WiredNode} {id : UInt32}
    (h0 : h.node.station.outstanding.loopback = some id) (evs : List NodeEvent) :
    ∃ pending, (h.run evs).node.station.outstanding.loopback = some pending :=
  Option.isSome_iff_exists.1 <|
    outstanding_run (P := fun o => o.loopback.isSome = true)
      (fun _ entry => Outstanding.isSome_loopback_noted entry) (by rw [h0]; rfl) evs

/-- The node after a note of its outstanding requests; nothing else changes. -/
def noted (h : WiredNode) (entry : Note) : WiredNode :=
  { h with
    node.station.outstanding := h.node.station.outstanding.noted entry }

/-! ### Nodes in service -/

/-- A node that was created with a configuration and an address, at some point of some run. -/
def InService (h : WiredNode) (config : Config) (own : MacAddress) : Prop :=
  ∃ ids start n w evs, Node.create config own ids start = .ok n ∧ h = (WiredNode.mk n w).run evs

lemma kin_run (h : WiredNode) (evs : List NodeEvent) : h.node.Kin (h.run evs).node := by
  induction evs generalizing h with
  | nil => exact .refl h.node
  | cons ev evs ih => exact (h.node.kin_turn ev).trans (ih (h.step ev).1)

namespace InService

variable {h : WiredNode} {config : Config} {own : MacAddress}

lemma run (hs : h.InService config own) (evs : List NodeEvent) :
    (h.run evs).InService config own := by
  obtain ⟨ids, start, n, w, before, hn, rfl⟩ := hs
  exact ⟨ids, start, n, w, before ++ evs, hn, (run_append ..).symm⟩

theorem templates (hs : h.InService config own) : ∃ tag, config.tag = .ok tag ∧
    h.node.schedule.Templates config own tag ∧
    h.node.station.config = config ∧ h.node.station.own = own := by
  obtain ⟨ids, start, n, w, evs, hn, rfl⟩ := hs
  obtain ⟨tag, ht, htemplates, hstation, -⟩ := Node.of_create own ids start hn
  have hk := kin_run ⟨n, w⟩ evs
  refine ⟨tag, ht, htemplates.of_kin hk, ?_, ?_⟩
  · rw [hk.config, hstation]
    rfl
  · rw [hk.own, hstation]
    rfl

end InService
end WiredNode
end RingContinuity
