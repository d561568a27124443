import RingContinuity.Proofs.EngineSteps
import RingContinuity.Proofs.LinktraceFiling

/-!
# Linktrace requests that fail

A request for a path fails if its message cannot be built or if the link refuses it. The former
leaves no trace but the id that was drawn. By the time of the latter the message is pending already:
an earlier one is forgotten together with its replies, and replies to it that are still to come are
refused.
-/

namespace RingContinuity

/-! ### What is collected -/

/-- A reply is filed if the message it answers is pending, and is refused otherwise. -/
lemma Station.dispatch_of_matchReply {s : Station} {f : Frame} {id : UInt32}
    {reply : Linktrace.Reply} (hm : Linktrace.matchReply f s.own id = .ok reply)
    {p : PendingLinktrace} (hp : s.outstanding.linktrace = some p) (now : Nat) :
    s.dispatch f now = if p.id = id
      then ({ s with outstanding := s.outstanding.recordLinktraceReply id reply },
        .done (.linktraceMatched id reply))
      else (s, .refused (.mismatch (.linktraceId id p.id))) := by
  obtain ⟨hc, hk, -, hother⟩ := Linktrace.of_matchReply hm
  have hid : s.outstanding.linktraceId? = some p.id := by
    unfold Outstanding.linktraceId?
    rw [hp]
    rfl
  rw [dispatch_of_opcode s hc now hk]
  unfold dispatchLtr
  rw [hid]
  change s.recordLtr f p.id = _
  unfold recordLtr
  by_cases he : p.id = id
  · rw [if_pos he, he, hm]
  · rw [if_neg he, hother p.id (Ne.symm he)]

/-- A received frame leaves the pending message alone, or a reply is filed. -/
lemma Station.linktrace_dispatch_cases (s : Station) (f : Frame) (now : Nat) :
    (s.dispatch f now).1.outstanding.linktrace = s.outstanding.linktrace ∨
    ∃ id reply, (s.dispatch f now).1.outstanding.linktrace =
      (s.outstanding.recordLinktraceReply id reply).linktrace := by
  by_cases hk : f.opcode = .ok .ltr
  · by_cases hc : f.isCfm = true
    · rw [dispatch_of_opcode s hc now hk]
      dsimp only
      unfold dispatchLtr
      split
      · exact .inl rfl
      · next id _ =>
        rcases s.recordLtr_cases f id with ⟨cause, -, hr⟩ | ⟨reply, -, hr⟩
        · exact .inl (congrArg (·.1.outstanding.linktrace) hr)
        · exact .inr ⟨id, reply, congrArg (·.1.outstanding.linktrace) hr⟩
    · unfold dispatch
      rw [if_pos (by simpa using hc)]
      exact .inl rfl
  · exact .inl (s.linktrace_dispatch hk now)

namespace Node

variable {n : Node} {p : PendingLinktrace}

/-- The node waits for replies to the message of `p` and has kept those that `p` has. -/
def Collects (n : Node) (p : PendingLinktrace) : Prop :=
  ∃ more, n.station.outstanding.linktrace = some { p with replies := p.replies ++ more }

lemma collects_of_pending (h : n.station.outstanding.linktrace = some p) : n.Collects p :=
  ⟨[], by rw [h, List.append_nil]⟩

lemma Collects.file (h : n.Collects p) (id : UInt32) (reply : Linktrace.Reply) :
    ∃ more, (n.station.outstanding.recordLinktraceReply id reply).linktrace =
      some { p with replies := p.replies ++ more } := by
  obtain ⟨more, hp⟩ := h
  unfold Outstanding.recordLinktraceReply
  dsimp only
  rw [hp, Option.map_some]
  split
  · exact ⟨more ++ [reply], by rw [List.append_assoc]⟩
  · exact ⟨more, rfl⟩

/-- Whatever is not a request keeps what was collected. -/
lemma Collects.act (h : n.Collects p) {a : NodeAct}
    (ha : ∀ target ttl, a ≠ .linktrace target ttl) : (n.act a).Collects p := by
  cases a with
  | dispatch f time =>
    unfold Collects
    rcases n.station.linktrace_dispatch_cases f time with ho | ⟨id, reply, ho⟩
    · exact ho ▸ h
    · exact ho ▸ h.file id reply
  | slot now =>
    unfold Collects
    change ∃ more, (n.tick now).1.station.outstanding.linktrace = _
    rcases n.outstanding_tick now with ho | ho <;> exact ho ▸ h
  | watch now => exact h
  | linktrace target ttl => exact absurd rfl (ha target ttl)

lemma Collects.acts (h : n.Collects p) {as : List NodeAct}
    (has : ∀ a ∈ as, ∀ target ttl, a ≠ .linktrace target ttl) :
    (as.foldl Node.act n).Collects p := by
  induction as generalizing n with
  | nil => exact h
  | cons a as ih =>
    exact ih (h.act (has a List.mem_cons_self)) fun b hb => has b (List.mem_cons_of_mem a hb)

lemma kin_act (n : Node) (a : NodeAct) : n.Kin (n.act a) := by
  cases a with
  | dispatch f time => exact n.kin_dispatch f time
  | slot now => exact n.kin_runSlot now
  | watch now => exact ⟨rfl, rfl, rfl, rfl, rfl⟩
  | linktrace target ttl =>
    unfold act linktrace Station.linktrace
    dsimp only [Station.drawId]
    cases Linktrace.buildRequest n.station.config n.station.own target n.station.ids.draw.1
      (ttl.getD Linktrace.defaultTtl) <;> exact ⟨rfl, rfl, rfl, rfl, rfl⟩

lemma kin_acts (n : Node) (as : List NodeAct) : n.Kin (as.foldl act n) := by
  induction as generalizing n with
  | nil => exact Kin.refl n
  | cons a as ih => exact (n.kin_act a).trans (ih (n.act a))

end Node

namespace Engine

/-! ### Runs without requests -/

/-- A run in which the operator does not ask for a path. -/
def Unasked (evs : List Event) : Prop := ∀ ev ∈ evs, ∀ target ttl, ev ≠ .linktrace target ttl

variable (e : Engine) {evs : List Event}

lemma no_linktrace_of_mem_actsAt {ev : Event} (hev : ∀ target ttl, ev ≠ .linktrace target ttl)
    {a : NodeAct} (ha : a ∈ e.actsAt ev) (target : MacAddress) (ttl : Option UInt8) :
    a ≠ .linktrace target ttl := by
  rintro rfl
  unfold actsAt at ha
  split at ha
  · split at ha
    · unfold dispatchActs at ha
      split at ha
      · exact nomatch List.mem_singleton.1 ha
      · exact nomatch ha
    · exact nomatch ha
  · split at ha
    · exact nomatch ha
    · unfold scheduleActs at ha
      split at ha <;> simp at ha
  · exact hev _ _ rfl
  · exact nomatch ha

lemma no_linktrace_of_mem_acts (hevs : Unasked evs) {a : NodeAct} (ha : a ∈ e.acts evs)
    (target : MacAddress) (ttl : Option UInt8) : a ≠ .linktrace target ttl := by
  induction evs generalizing e with
  | nil => exact nomatch ha
  | cons ev evs ih =>
    rcases List.mem_append.1 ha with ha | ha
    · exact e.no_linktrace_of_mem_actsAt (hevs ev List.mem_cons_self) ha target ttl
    · exact ih _ (fun x hx => hevs x (List.mem_cons_of_mem ev hx)) ha

lemma collects_run {p : PendingLinktrace} (h : e.node.Collects p) (hevs : Unasked evs) :
    (e.run evs).1.node.Collects p := by
  rw [node_run]
  exact h.acts fun a ha => e.no_linktrace_of_mem_acts hevs ha

lemma own_run (evs : List Event) : (e.run evs).1.node.station.own = e.node.station.own := by
  rw [node_run]
  exact (e.node.kin_acts _).own

/-- Only requests draw ids. -/
lemma step_redrawn (ids : IdSource) {ev : Event} (hev : ∀ target ttl, ev ≠ .linktrace target ttl) :
    (e.redrawn ids).step ev = ((e.step ev).1.redrawn ids, (e.step ev).2) := by
  cases ev with
  | read result =>
    by_cases hlive : Activity.receive ∈ e.live
    · simp only [step, redrawn, hlive, not_true, if_false]
      cases result <;> rfl
    · simp only [step, redrawn, hlive, not_false_eq_true, if_true]
  | wake =>
    rw [step_wake, step_wake]
    rfl
  | drain =>
    rw [step_drain, step_drain]
    rfl
  | handle =>
    have hn : (e.redrawn ids).upNext = e.upNext := rfl
    rw [step_handle, step_handle, hn]
    rcases e.upNext with ⟨_ | ⟨time, xs⟩, phase⟩
    · rfl
    · exact ({ e with phase } : Engine).dispatch_redrawn ids time xs
  | tick =>
    change (if Activity.scheduler ∉ e.live ∨ e.now < e.due then _ else
      (e.redrawn ids).runSchedule) = _
    rw [runSchedule_redrawn]
    unfold step
    dsimp only
    split <;> rfl
  | elapse millis => rfl
  | linktrace target ttl => exact absurd rfl (hev target ttl)
  | cancel => rfl
  | leave a =>
    change (if !e.cancelled || (a = .dispatch && e.phase ≠ .idle) then _ else _) = _
    unfold step
    dsimp only
    split <;> rfl

lemma run_redrawn (ids : IdSource) (hevs : Unasked evs) :
    (e.redrawn ids).run evs = ((e.run evs).1.redrawn ids, (e.run evs).2) := by
  induction evs generalizing e with
  | nil => rfl
  | cons ev evs ih =>
    unfold run
    rw [e.step_redrawn ids (hevs ev List.mem_cons_self)]
    dsimp only
    rw [ih _ fun x hx => hevs x (List.mem_cons_of_mem ev hx)]

/-! ### Failure -/

/-- The message that a request is about to send. -/
def request (target : MacAddress) (ttl : Option UInt8) : Except Error Frame :=
  Linktrace.buildRequest e.node.station.config e.node.station.own target e.node.station.ids.draw.1
    (ttl.getD Linktrace.defaultTtl)

variable {target : MacAddress} {ttl : Option UInt8}

lemma trace_of_error {cause : Error} (h : e.request target ttl = .error cause) :
    e.trace target ttl = (e.redrawn e.node.station.ids.draw.2, .error cause) := by
  unfold request at h
  unfold trace Node.linktrace Station.linktrace
  dsimp only [Station.drawId]
  rw [h]
  rfl

lemma trace_of_ok {f : Frame} (h : e.request target ttl = .ok f) : e.trace target ttl =
    ({ e.redrawn e.node.station.ids.draw.2 with
      node.station.outstanding :=
        e.node.station.outstanding.startLinktrace e.node.station.ids.draw.1 target
      wire := (e.wire.offer e.now f).1 },
      (e.wire.offer e.now f).2.map fun _ => e.node.station.ids.draw.1) := by
  unfold request at h
  unfold trace Node.linktrace Station.linktrace
  dsimp only [Station.drawId]
  rw [h]
  rfl

/-- A request fails before its message is pending or after that. -/
lemma trace_eq_error {cause : Error} (h : (e.trace target ttl).2 = .error cause) :
    (e.request target ttl = .error cause ∧
      (e.trace target ttl).1 = e.redrawn e.node.station.ids.draw.2) ∨
    ∃ f, e.request target ttl = .ok f ∧ e.wire.verdict e.wire.offered f.onLink = .error cause ∧
      (e.trace target ttl).1.node.station.outstanding =
        e.node.station.outstanding.startLinktrace e.node.station.ids.draw.1 target := by
  cases hf : e.request target ttl with
  | error cause' =>
    rw [e.trace_of_error hf] at h ⊢
    cases h
    exact .inl ⟨rfl, rfl⟩
  | ok f =>
    rw [e.trace_of_ok hf] at h ⊢
    refine .inr ⟨f, rfl, ?_, rfl⟩
    change (e.wire.verdict e.wire.offered f.onLink).map _ = _ at h
    cases hv : e.wire.verdict e.wire.offered f.onLink with
    | error cause' =>
      rw [hv] at h
      exact congrArg Except.error (Except.error.inj h)
    | ok u =>
      rw [hv] at h
      cases h

/-- A request for a path that fails because its message cannot be built, which takes a VLAN id that
does not exist, might as well not have been made: until the next one, everything goes on as without
it. One that the link refuses is pending all the same. Nothing is left of the message before it: a
reply to that one, which would have been added to the replies collected so far, is now refused. -/
theorem failed_trace (target : MacAddress) (ttl : Option UInt8) {cause : Error}
    (h : (e.trace target ttl).2 = .error cause) :
    let failed := (e.trace target ttl).1
    let id := e.node.station.ids.draw.1
    (e.request target ttl = .error cause ∧ maxVlanId < e.node.station.config.vlan ∧
      failed.node.station.outstanding = e.node.station.outstanding ∧
      ∀ evs, Unasked evs →
        failed.run evs = ((e.run evs).1.redrawn e.node.station.ids.draw.2, (e.run evs).2)) ∨
    ∃ f, e.request target ttl = .ok f ∧ e.wire.verdict e.wire.offered f.onLink = .error cause ∧
      failed.node.station.outstanding.linktrace = some ⟨id, target, []⟩ ∧
      ∀ p, e.node.station.outstanding.linktrace = some p → p.id ≠ id → ∀ evs, Unasked evs →
        ∀ g reply, Linktrace.matchReply g e.node.station.own p.id = .ok reply → ∀ time,
          (∃ more, ((e.run evs).1.node.dispatch g time).1.station.outstanding.linktrace =
            some { p with replies := p.replies ++ more ++ [reply] }) ∧
          (failed.run evs).1.node.dispatch g time =
            ((failed.run evs).1.node, .refused (.mismatch (.linktraceId p.id id))) := by
  intro failed id
  rcases e.trace_eq_error h with ⟨hf, ht⟩ | ⟨f, hf, hv, ho⟩
  · have hvlan : maxVlanId < e.node.station.config.vlan := by
      by_contra hle
      obtain ⟨tag, htag⟩ := Config.tag_ok (UInt16.not_lt.1 hle)
      obtain ⟨f, hok, -⟩ := Linktrace.buildRequest_ok e.node.station.own htag target id
        (ttl.getD Linktrace.defaultTtl)
      unfold request at hf
      rw [hok] at hf
      exact nomatch hf
    refine .inl ⟨hf, hvlan, congrArg (·.node.station.outstanding) ht, fun evs hevs => ?_⟩
    change (e.trace target ttl).1.run evs = _
    rw [ht]
    exact e.run_redrawn _ hevs
  · have hpending : failed.node.station.outstanding.linktrace = some ⟨id, target, []⟩ :=
      congrArg (·.linktrace) ho
    refine .inr ⟨f, hf, hv, hpending, fun p hp hne evs hevs g reply hm time => ⟨?_, ?_⟩⟩
    · -- Had the request not been made, the message before it would still be pending.
      obtain ⟨more, hmore⟩ := e.collects_run (Node.collects_of_pending hp) hevs
      rw [← e.own_run evs] at hm
      refine ⟨more, ?_⟩
      unfold Node.dispatch
      rw [Station.dispatch_of_matchReply hm hmore, if_pos rfl]
      unfold Outstanding.recordLinktraceReply
      dsimp only
      rw [hmore, Option.map_some, if_pos rfl]
    · -- The message that was never sent stays pending, and has another id than the reply.
      obtain ⟨more, hmore⟩ := failed.collects_run (Node.collects_of_pending hpending) hevs
      have hown : (failed.run evs).1.node.station.own = e.node.station.own := by
        rw [failed.own_run evs]
        exact e.own_run [.linktrace target ttl]
      rw [← hown] at hm
      unfold Node.dispatch
      rw [Station.dispatch_of_matchReply hm hmore, if_neg (Ne.symm hne)]

end Engine

namespace Pair

def third : MacAddress := ⟨2, 0, 0, 0, 0, 3⟩

def sendFailure : Error := .transport (.words "injected send failure")

/-- The first station asks for the path to the second one, on a link that refuses the next frame,
and has collected one reply. -/
def tracing : Engine :=
  (Engine.run
    { node := (node false).redrawn ⟨fun k => 8 + UInt32.ofNat k, 0⟩
      wire := { verdict := fun k _ => if k = 1 then .error sendFailure else .ok () } }
    [.linktrace (address true) none, .read (.frame (ltr 8).octets), .wake, .drain, .handle]).1

end Pair

/-- A request that fails forgets the message before it and the reply to that. -/
theorem Engine.failed_trace_forgets :
    Pair.tracing.node.station.outstanding.linktrace =
      some ⟨8, Pair.address true, [⟨1, true⟩]⟩ ∧
    (Pair.tracing.trace Pair.third none).2 = .error Pair.sendFailure ∧
    (Pair.tracing.trace Pair.third none).1.node.station.outstanding.linktrace =
      some ⟨9, Pair.third, []⟩ := by
  decide +kernel

/-- The failure refuses a second reply to the message before, which would have been collected. -/
theorem Engine.failed_trace_pair :
    (Pair.tracing.trace Pair.third none).2 = .error Pair.sendFailure ∧
    (∃ more, (Pair.tracing.node.dispatch (Pair.ltr 8) 0).1.station.outstanding.linktrace =
      some ⟨8, Pair.address true, [⟨1, true⟩] ++ more ++ [⟨1, true⟩]⟩) ∧
    ((Pair.tracing.trace Pair.third none).1.node.dispatch (Pair.ltr 8) 0).2 =
      .refused (.mismatch (.linktraceId 8 9)) := by
  have hp : Pair.tracing.node.station.outstanding.linktrace =
      some ⟨8, Pair.address true, [⟨1, true⟩]⟩ := by decide +kernel
  have hid : Pair.tracing.node.station.ids.draw.1 = 9 := by decide +kernel
  have hf : (Pair.tracing.trace Pair.third none).2 = .error Pair.sendFailure := by decide +kernel
  rcases Pair.tracing.failed_trace Pair.third none hf with ⟨-, hvlan, -⟩ | ⟨f, -, -, -, hlost⟩
  · exact absurd hvlan (by decide +kernel)
  · obtain ⟨hkept, hrefused⟩ := hlost _ hp (by rw [hid]; decide) [] nofun (Pair.ltr 8) ⟨1, true⟩
      (by decide +kernel) 0
    rw [hid] at hrefused
    simp only [Engine.run] at hkept hrefused
    exact ⟨hf, hkept, congrArg (·.2) hrefused⟩

end RingContinuity
