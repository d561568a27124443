import RingContinuity.Proofs.LinktraceExchange
import Mathlib.Data.List.Perm.Basic

/-!
# Filing linktrace replies

A dispatch of a linktrace reply locks the outstanding requests twice: once to read the id of the
pending message, and again to file the reply once it has matched that id. In between, the operator
may ask for another path, and other replies may be filed. `Interleaving` lets these sections follow
each other in any order. Whatever the order is, what is filed under a message answers that message.
-/

namespace RingContinuity

/-! ### Matched replies -/

namespace Linktrace

/-- A frame that matches is a linktrace reply with the id, and matches no other one. -/
theorem of_matchReply {f : Frame} {own : MacAddress} {id : UInt32} {reply : Reply}
    (h : matchReply f own id = .ok reply) :
    f.isCfm = true ∧ f.opcode = .ok .ltr ∧ f.transactionId = .ok id ∧ ∀ id', id ≠ id' →
      matchReply f own id' = .error (.mismatch (.linktraceId id id')) := by
  unfold matchReply at h ⊢
  obtain ⟨hc, h⟩ := ok_of_guard h
  obtain ⟨destination, hd, h⟩ := ok_of_bind h
  obtain ⟨hown, h⟩ := ok_of_guard h
  obtain ⟨header, hh, h⟩ := ok_of_bind h
  obtain ⟨hk, h⟩ := ok_of_guard h
  obtain ⟨payload, hp, h⟩ := ok_of_bind h
  split at h
  · next hl =>
    have hid : Octets.read32 payload 0 (by omega) = id := Classical.not_not.1 (ok_of_guard h).1
    refine ⟨by simpa using hc, ?_, ?_, fun id' hne => ?_⟩
    · unfold Frame.opcode
      rw [hh, ← Opcode.ofCode_code .ltr, ← Classical.not_not.1 hk]
      rfl
    · obtain ⟨hoff, rfl⟩ := Frame.of_need hp
      rw [List.length_drop] at hl
      have hw : f.payloadOffset + 4 ≤ f.octets.length := by omega
      have hr : Octets.read32 f.octets f.payloadOffset hw = id := by
        rw [← hid]
        simp only [Octets.read32, List.getElem_drop, Nat.zero_add, Nat.add_zero]
      unfold Frame.transactionId Frame.word32At
      rw [Frame.need_of_le hw, hr]
    · rw [if_neg hc, hd, hh, hp]
      simp only [bind, Except.bind, if_neg hown, if_neg hk]
      rw [dif_pos hl, hid, if_pos hne]
      rfl
  · exact nomatch h

end Linktrace

namespace Station

variable (s : Station) (f : Frame)

/-- A reply is refused, or it matches and is filed under the id that was read. -/
lemma recordLtr_cases (id : UInt32) :
    (∃ cause, Linktrace.matchReply f s.own id = .error cause ∧
      s.recordLtr f id = (s, .refused cause)) ∨
    ∃ reply, Linktrace.matchReply f s.own id = .ok reply ∧ s.recordLtr f id =
      ({ s with outstanding := s.outstanding.recordLinktraceReply id reply },
        .done (.linktraceMatched id reply)) := by
  unfold recordLtr
  cases Linktrace.matchReply f s.own id with
  | error cause => exact .inl ⟨cause, rfl, rfl⟩
  | ok reply => exact .inr ⟨reply, rfl, rfl⟩

variable {f}

/-- Only linktrace replies are filed. -/
lemma linktrace_dispatch (hk : f.opcode ≠ .ok .ltr) (now : Nat) :
    (s.dispatch f now).1.outstanding.linktrace = s.outstanding.linktrace := by
  unfold dispatch
  split
  · rfl
  · split
    · rfl
    · rfl
    · rfl
    · unfold dispatchLbr
      split
      · rfl
      · split <;> rfl
    · rfl
    · next h => exact absurd h hk
    · rfl

end Station

/-! ### Sections in any order -/

/-- A reply that a dispatch has filed: the number of its frame, counted in the order in which the
dispatches began, and the id that the dispatch had read. -/
structure Filing where
  number : Nat
  id : UInt32
  reply : Linktrace.Reply

/-- What happens to the pending linktrace message while the outstanding requests are locked. -/
inductive LinktraceEntry
  | asked (id : UInt32) (target : MacAddress)
  | filed (filing : Filing)

namespace LinktraceEntry

def filing? : LinktraceEntry → Option Filing
  | asked .. => none
  | filed x => some x

/-- What is filed under the message `id`, in order. -/
def filingsUnder (id : UInt32) (entries : List LinktraceEntry) : List Filing :=
  (entries.filterMap filing?).filter (·.id = id)

/-- The pending message after an entry. -/
def enter (pending : Option PendingLinktrace) : LinktraceEntry → Option PendingLinktrace
  | asked id target => some ⟨id, target, []⟩
  | filed x => pending.map fun p =>
    if p.id = x.id then { p with replies := p.replies ++ [x.reply] } else p

end LinktraceEntry

/-- A dispatch that has read the id of the pending message and has not filed its reply yet. -/
structure OpenDispatch where
  number : Nat
  frame : Frame
  id : UInt32

/-- The next section, or something else that a node does. -/
inductive DispatchSection
  | read (f : Frame)
  /-- The open dispatch at this position files its reply. -/
  | file (position : Nat)
  | other (ev : NodeEvent)

/-- Events that file a reply in one go. -/
def NodeEvent.files : NodeEvent → Bool
  | .receive f _ => match f.opcode with
    | .ok .ltr => true
    | _ => false
  | .note (.recordLinktraceReply ..) => true
  | _ => false

/-- The messages that an event sends, be it for the operator or for somebody else. -/
def Node.asks (n : Node) : NodeEvent → List LinktraceEntry
  | .linktrace target ttl _ => match (n.linktrace target ttl).2 with
    | .ok (id, _) => [.asked id target]
    | .error _ => []
  | .note (.startLinktrace id target) => [.asked id target]
  | _ => []

/-- A node, the dispatches of linktrace replies that are under way, and what happened so far. -/
structure Interleaving where
  node : Node
  /-- The frames whose dispatch has begun. -/
  received : List Frame := []
  waiting : List OpenDispatch := []
  log : List LinktraceEntry := []

namespace Interleaving

/-- One section. A linktrace reply is dispatched in two of them, so that events which file a reply
in one go are left out. -/
def step (s : Interleaving) : DispatchSection → Interleaving
  | .read f =>
    { s with
      received := s.received ++ [f]
      waiting := s.waiting ++
        (s.node.station.outstanding.linktraceId?.map (OpenDispatch.mk s.received.length f)).toList }
  | .file position =>
    match s.waiting[position]? with
    | none => s
    | some x =>
      let (station, reaction) := s.node.station.recordLtr x.frame x.id
      { s with
        node := { s.node with station }
        waiting := s.waiting.eraseIdx position
        log := s.log ++ match reaction with
          | .done (.linktraceMatched id reply) => [.filed ⟨x.number, id, reply⟩]
          | _ => [] }
  | .other ev =>
    if ev.files then s else { s with node := (s.node.turn ev).1, log := s.log ++ s.node.asks ev }

def run (s : Interleaving) (sections : List DispatchSection) : Interleaving := sections.foldl step s

/-- The two sections one after the other are the dispatch of a linktrace reply. -/
theorem node_read_file (s : Interleaving) {f : Frame} (hc : f.isCfm = true)
    (hk : f.opcode = .ok .ltr) (now : Nat) :
    ((s.step (.read f)).step (.file s.waiting.length)).node = (s.node.dispatch f now).1 := by
  have hd : (s.node.dispatch f now).1 =
      { s.node with station := (s.node.station.dispatchLtr f).1 } := by
    unfold Node.dispatch
    rw [s.node.station.dispatch_of_opcode hc now hk]
  rw [hd]
  unfold Station.dispatchLtr step
  cases s.node.station.outstanding.linktraceId? with
  | none => simp
  | some id => simp

end Interleaving

/-! ### What the entries come to -/

open LinktraceEntry

/-- The pending message is the last one that was sent, with what was filed under it since. -/
theorem LinktraceEntry.exists_asked_of_enter {log : List LinktraceEntry} {p : PendingLinktrace}
    (h : log.foldl enter none = some p) :
    ∃ before since, log = before ++ asked p.id p.target :: since ∧
      (∀ e ∈ since, ∃ x, e = filed x) ∧ p.replies = (filingsUnder p.id since).map (·.reply) := by
  -- From the back, since the last entry decides whether the message is still the one before it.
  induction log using List.reverseRecOn generalizing p with
  | nil => exact nomatch h
  | append_singleton log e ih =>
    rw [List.foldl_append] at h
    cases e with
    | asked id target =>
      cases h
      exact ⟨log, [], rfl, nofun, rfl⟩
    | filed x =>
      obtain ⟨q, hq, hp⟩ := Option.map_eq_some_iff.1 h
      obtain ⟨before, since, hlog, hfiled, hreplies⟩ := ih hq
      have hsince : ∀ e ∈ since ++ [filed x], ∃ y, e = filed y := by
        intro e he
        rcases List.mem_append.1 he with he | he
        · exact hfiled e he
        · exact ⟨x, List.mem_singleton.1 he⟩
      by_cases hid : q.id = x.id
      · rw [if_pos hid] at hp
        cases hp
        refine ⟨before, since ++ [filed x], by rw [hlog, List.append_assoc]; rfl, hsince, ?_⟩
        simp [filingsUnder, filing?, hid, hreplies]
      · rw [if_neg hid] at hp
        cases hp
        refine ⟨before, since ++ [filed x], by rw [hlog, List.append_assoc]; rfl, hsince, ?_⟩
        simp [filingsUnder, filing?, Ne.symm hid, hreplies]

/-- Nothing is pending only as long as nobody has asked. -/
lemma LinktraceEntry.filed_of_enter {log : List LinktraceEntry} (h : log.foldl enter none = none) :
    ∀ e ∈ log, ∃ x, e = filed x := by
  induction log using List.reverseRecOn with
  | nil => exact nofun
  | append_singleton log e ih =>
    rw [List.foldl_append] at h
    cases e with
    | asked id target => exact nomatch h
    | filed x =>
      intro e he
      rcases List.mem_append.1 he with he | he
      · exact ih (Option.map_eq_none_iff.1 h) e he
      · exact ⟨x, List.mem_singleton.1 he⟩

/-- Apart from the replies that it files, an event changes the pending message only by asking. -/
lemma Node.linktrace_turn (n : Node) {ev : NodeEvent} (h : ev.files = false) :
    (n.turn ev).1.station.outstanding.linktrace =
      (n.asks ev).foldl enter n.station.outstanding.linktrace := by
  cases ev with
  | tick now =>
    change (n.tick now).1.station.outstanding.linktrace = _
    rcases n.outstanding_tick now with ho | ho
    · rw [ho]
      rfl
    · rw [ho]
      rfl
  | receive f now =>
    apply n.station.linktrace_dispatch
    intro hk
    simp [NodeEvent.files, hk] at h
  | linktrace target ttl now =>
    unfold asks turn linktrace Station.linktrace
    dsimp only [Station.drawId]
    cases Linktrace.buildRequest n.station.config n.station.own target n.station.ids.draw.1
      (ttl.getD Linktrace.defaultTtl) <;> rfl
  | note entry =>
    cases entry with
    | awaitLoopback id => rfl
    | countLoopbackReply => rfl
    | startLinktrace id target => rfl
    | recordLinktraceReply id reply => exact nomatch h
  | draw => rfl
  | reseed ids => rfl

lemma Node.filing?_of_mem_asks {n : Node} {ev : NodeEvent} {e : LinktraceEntry}
    (h : e ∈ n.asks ev) : e.filing? = none := by
  unfold asks at h
  split at h
  · split at h
    · rw [List.mem_singleton.1 h]
      rfl
    · exact nomatch h
  · rw [List.mem_singleton.1 h]
    rfl
  · exact nomatch h

namespace Interleaving

/-- The numbers of the frames whose replies were filed. -/
def filedNumbers (s : Interleaving) : List Nat := (s.log.filterMap filing?).map (·.number)

/-- What holds after any number of sections. -/
structure Sound (own : MacAddress) (s : Interleaving) : Prop where
  own_eq : s.node.station.own = own
  pending : s.node.station.outstanding.linktrace = s.log.foldl enter none
  waiting : ∀ x ∈ s.waiting, s.received[x.number]? = some x.frame
  filed : ∀ x ∈ s.log.filterMap filing?, ∃ f, s.received[x.number]? = some f ∧
    Linktrace.matchReply f own x.id = .ok x.reply
  once : (s.filedNumbers ++ s.waiting.map (·.number)).Nodup

namespace Sound

variable {own : MacAddress} {s : Interleaving}

/-- Every number is that of a frame that was received. -/
lemma number_lt (h : s.Sound own) {number : Nat}
    (hm : number ∈ s.filedNumbers ++ s.waiting.map (·.number)) : number < s.received.length := by
  rcases List.mem_append.1 hm with hm | hm
  · obtain ⟨x, hx, rfl⟩ := List.mem_map.1 hm
    obtain ⟨f, hf, -⟩ := h.filed x hx
    exact (List.getElem?_eq_some_iff.1 hf).1
  · obtain ⟨x, hx, rfl⟩ := List.mem_map.1 hm
    exact (List.getElem?_eq_some_iff.1 (h.waiting x hx)).1

theorem read (h : s.Sound own) (f : Frame) : (s.step (.read f)).Sound own := by
  have hkept : ∀ {number : Nat} {g : Frame}, s.received[number]? = some g →
      (s.received ++ [f])[number]? = some g := by
    intro number g hg
    rw [List.getElem?_append_left (List.getElem?_eq_some_iff.1 hg).1]
    exact hg
  have hnew : s.received.length ∉ s.filedNumbers ++ s.waiting.map (·.number) :=
    fun hm => Nat.lt_irrefl _ (h.number_lt hm)
  refine ⟨h.own_eq, h.pending, fun x hx => ?_, fun x hx => ?_, ?_⟩
  · rcases List.mem_append.1 hx with hx | hx
    · exact hkept (h.waiting x hx)
    · obtain ⟨id, -, rfl⟩ := Option.map_eq_some_iff.1 (Option.mem_toList.1 hx)
      exact List.getElem?_concat_length
  · obtain ⟨g, hg, hm⟩ := h.filed x hx
    exact ⟨g, hkept hg, hm⟩
  · change (s.filedNumbers ++ List.map _ (s.waiting ++ _)).Nodup
    rw [List.map_append, ← List.append_assoc]
    cases s.node.station.outstanding.linktraceId? with
    | none => simpa using h.once
    | some id =>
      refine List.nodup_append.2 ⟨h.once, List.nodup_singleton _, fun a ha b hb hab => ?_⟩
      rw [hab, List.mem_singleton.1 hb] at ha
      exact hnew ha

section File

variable {position : Nat} {x : OpenDispatch}

/-- The numbers left after a dispatch has filed its reply are those from before, without its own. -/
lemma numbers_perm (hx : s.waiting[position]? = some x) :
    (s.filedNumbers ++ [x.number] ++ (s.waiting.eraseIdx position).map (·.number)).Perm
      (s.filedNumbers ++ s.waiting.map (·.number)) := by
  obtain ⟨hlt, rfl⟩ := List.getElem?_eq_some_iff.1 hx
  rw [List.append_assoc]
  exact ((List.getElem_cons_eraseIdx_perm hlt).map _).append_left _

lemma refused (h : s.Sound own) (position : Nat) :
    { s with waiting := s.waiting.eraseIdx position }.Sound own := by
  refine ⟨h.own_eq, h.pending, fun y hy => h.waiting y (List.mem_of_mem_eraseIdx hy), h.filed, ?_⟩
  have hsub : (s.filedNumbers ++ (s.waiting.eraseIdx position).map (·.number)).Sublist
      (s.filedNumbers ++ s.waiting.map (·.number)) :=
    ((List.eraseIdx_sublist ..).map _).append_left _
  exact h.once.sublist hsub

lemma matched (h : s.Sound own) (hx : s.waiting[position]? = some x) {reply : Linktrace.Reply}
    (hm : Linktrace.matchReply x.frame own x.id = .ok reply) :
    { s with
      node.station.outstanding := s.node.station.outstanding.recordLinktraceReply x.id reply
      waiting := s.waiting.eraseIdx position
      log := s.log ++ [LinktraceEntry.filed ⟨x.number, x.id, reply⟩] }.Sound own := by
  refine ⟨h.own_eq, ?_, fun y hy => h.waiting y (List.mem_of_mem_eraseIdx hy), fun y hy => ?_, ?_⟩
  · rw [List.foldl_append, ← h.pending]
    rfl
  · rw [List.filterMap_append] at hy
    rcases List.mem_append.1 hy with hy | hy
    · exact h.filed y hy
    · cases List.mem_singleton.1 hy
      exact ⟨x.frame, h.waiting x (List.mem_of_getElem? hx), hm⟩
  · unfold filedNumbers
    rw [List.filterMap_append, List.map_append]
    exact (numbers_perm hx).nodup_iff.2 h.once

theorem file (h : s.Sound own) (position : Nat) : (s.step (.file position)).Sound own := by
  cases hx : s.waiting[position]? with
  | none =>
    have hs : s.step (.file position) = s := by
      simp only [step, hx]
    rw [hs]
    exact h
  | some x =>
    rcases s.node.station.recordLtr_cases x.frame x.id with ⟨cause, -, hr⟩ | ⟨reply, hm, hr⟩
    · have hs : s.step (.file position) = { s with waiting := s.waiting.eraseIdx position } := by
        simp only [step, hx, hr, List.append_nil]
      rw [hs]
      exact h.refused position
    · rw [h.own_eq] at hm
      have hs := h.matched hx hm
      simpa only [step, hx, hr] using hs

end File

theorem other (h : s.Sound own) (ev : NodeEvent) : (s.step (.other ev)).Sound own := by
  unfold step
  dsimp only
  split
  · exact h
  · next hev =>
    have hnone : (s.node.asks ev).filterMap filing? = [] :=
      List.filterMap_eq_nil_iff.2 fun e he => Node.filing?_of_mem_asks he
    have hsame : (s.log ++ s.node.asks ev).filterMap filing? = s.log.filterMap filing? := by
      rw [List.filterMap_append, hnone, List.append_nil]
    refine ⟨(s.node.kin_turn ev).own.trans h.own_eq, ?_, h.waiting, ?_, ?_⟩
    · rw [List.foldl_append, ← h.pending]
      exact s.node.linktrace_turn (by simpa using hev)
    · rw [hsame]
      exact h.filed
    · unfold filedNumbers
      rw [hsame]
      exact h.once

theorem run (h : s.Sound own) (sections : List DispatchSection) : (s.run sections).Sound own := by
  induction sections generalizing s with
  | nil => exact h
  | cons next rest ih =>
    apply ih
    cases next with
    | read f => exact h.read f
    | file position => exact h.file position
    | other ev => exact h.other ev

lemma start {n : Node} (hn : n.station.outstanding.linktrace = none) :
    (Interleaving.mk n [] [] []).Sound n.station.own :=
  ⟨rfl, hn, nofun, nofun, List.nodup_nil⟩

end Sound
end Interleaving

/-- Whatever a node does and in whatever order its dispatches of linktrace replies read the id of
the pending message and file what they matched, the replies that it has collected are those that
were filed under the pending message since that was sent, each of them once and in this order. They
come from different frames, all of which were received with the transaction id of that message. -/
theorem replies_of_pending (n : Node) (hn : n.station.outstanding.linktrace = none)
    (sections : List DispatchSection) :
    let s := (Interleaving.mk n [] [] []).run sections
    (s.node.station.outstanding.linktrace = none → ∀ e ∈ s.log, ∃ x, e = filed x) ∧
    ∀ p, s.node.station.outstanding.linktrace = some p →
      ∃ before since, s.log = before ++ asked p.id p.target :: since ∧
        (∀ e ∈ since, ∃ x, e = filed x) ∧
        p.replies = (filingsUnder p.id since).map (·.reply) ∧
        ((filingsUnder p.id since).map (·.number)).Nodup ∧
        ∀ x ∈ filingsUnder p.id since, ∃ f, s.received[x.number]? = some f ∧
          f.transactionId = .ok p.id ∧
          Linktrace.matchReply f n.station.own p.id = .ok x.reply := by
  intro s
  have hs : s.Sound n.station.own := (Interleaving.Sound.start hn).run sections
  refine ⟨fun hp => filed_of_enter (hs.pending.symm.trans hp), fun p hp => ?_⟩
  obtain ⟨before, since, hlog, hfiled, hreplies⟩ :=
    exists_asked_of_enter (hs.pending.symm.trans hp)
  have hsub : (filingsUnder p.id since).Sublist (s.log.filterMap filing?) := by
    rw [hlog, List.filterMap_append]
    exact List.filter_sublist.trans (List.sublist_append_right ..)
  have honce : s.filedNumbers.Nodup := hs.once.sublist (List.sublist_append_left ..)
  refine ⟨before, since, hlog, hfiled, hreplies, honce.sublist (hsub.map _), fun x hx => ?_⟩
  obtain ⟨f, hf, hm⟩ := hs.filed x (hsub.subset hx)
  have hid : x.id = p.id := of_decide_eq_true (List.mem_filter.1 hx).2
  rw [hid] at hm
  exact ⟨f, hf, (Linktrace.of_matchReply hm).2.2.1, hm⟩

namespace Pair

/-- The reply of the second of two stations to a linktrace message of the first one. -/
def ltr (id : UInt8) : Frame where
  octets := [2, 0, 0, 0, 0, 1, 2, 0, 0, 0, 0, 2, 0x89, 0x02, 0, 4, 0x20, 6, 0, 0, 0, id, 1, 1, 0]
  kind := none
  length_le := by simp [maxFrameLength]

/-- The first station asks with the id 7, and reads that id when the reply arrives. It asks once
more, with the id 8, before it files the reply. -/
def lateReply : List DispatchSection :=
  [.other (.linktrace (address true) none 0), .read (ltr 7),
    .other (.note (.startLinktrace 8 (address true))), .file 0, .read (ltr 8), .file 0]

def afterLateReply : Interleaving := (Interleaving.mk (node false) [] [] []).run lateReply

end Pair

/-- A reply that is filed too late is not collected under the message that has replaced its own. -/
theorem replies_of_pending_late :
    (Pair.node false).station.outstanding.linktrace = none ∧
    Pair.afterLateReply.filedNumbers = [0, 1] ∧
    Pair.afterLateReply.node.station.outstanding.linktrace =
      some ⟨8, Pair.address true, [⟨1, true⟩]⟩ ∧
    ∃ before since, Pair.afterLateReply.log = before ++ asked 8 (Pair.address true) :: since ∧
      [⟨1, true⟩] = (filingsUnder 8 since).map (·.reply) ∧
      ∀ x ∈ filingsUnder 8 since, ∃ f, Pair.afterLateReply.received[x.number]? = some f ∧
        f.transactionId = .ok 8 := by
  have hn : (Pair.node false).station.outstanding.linktrace = none := by decide +kernel
  have hp : Pair.afterLateReply.node.station.outstanding.linktrace =
      some ⟨8, Pair.address true, [⟨1, true⟩]⟩ := by decide +kernel
  have hnumbers : Pair.afterLateReply.filedNumbers = [0, 1] := by decide +kernel
  unfold Pair.afterLateReply at hp hnumbers ⊢
  obtain ⟨before, since, hlog, -, hreplies, -, hfrom⟩ :=
    (replies_of_pending (Pair.node false) hn Pair.lateReply).2 _ hp
  refine ⟨hn, hnumbers, hp, before, since, hlog, hreplies, fun x hx => ?_⟩
  obtain ⟨f, hf, hid, -⟩ := hfrom x hx
  exact ⟨f, hf, hid⟩

end RingContinuity
