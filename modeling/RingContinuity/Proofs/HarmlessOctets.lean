import RingContinuity.Engine
import RingContinuity.Proofs.CcmReception
import RingContinuity.Proofs.NodeRun
import RingContinuity.Proofs.SilentDrops
import RingContinuity.Proofs.UncheckedMessages

/-!
# Harmless octets

Nobody can stop an engine, or make it report a fault of its own, by what he sends to it. Handling
octets of any number and content never leads to a read outside of them, and a frame that is not
dealt with is dropped in silence, unless the link refuses the answer to it.
-/

namespace RingContinuity

namespace Engine

/-- The engine after it has offered its link what a reaction says, and its report on the octets. -/
def answered (e : Engine) (xs : Octets) (r : Reaction) : Engine × Report :=
  match e.offerAll r.offered?.toList with
  | (e, none) => (e.fail .dispatch, .quiet)
  | (e, some verdicts) => (e, .decoded xs ((r.outcome (verdicts.headD (.ok ()))).map some))

lemma dispatch_of_decode {xs : Octets} {f : Frame} (h : (Frame.decode xs).1 = .ok (some f))
    (e : Engine) (time : Nat) : e.dispatch time xs =
      { e with node := (e.node.dispatch f time).1 }.answered xs (e.node.dispatch f time).2 := by
  unfold dispatch
  rw [h]
  rfl

end Engine

namespace Trapping

/-! ### Dispatching -/

/-- The result of a station for a frame: a failure refuses the frame and leaves the station. -/
def settle (s : Station) (x : Trapping (Station × Reaction)) : Trapping (Station × Reaction) := do
  match ← attempt x with
  | .error cause => return (s, .refused cause)
  | .ok result => return result

/-- A station that says whom it deals with reads that off the frame. By then it has changed. -/
def logged {α : Type} (x : Trapping α) (s : Station) (r : Reaction) :
    Trapping (Station × Reaction) := do
  match ← attempt x with
  | .error cause => return (s, .refused cause)
  | .ok _ => return (s, r)

/-- The table has an entry for each id up to `maxMepId`; behind its entry, no octet is read. -/
def apply (t : MepTable) (f : Frame) (config : Config) (now : Nat) :
    Trapping (MepTable × Except Error CcmAccepted) := do
  match ← attempt (receiveCcm f config) with
  | .error cause => return (t, .error cause)
  | .ok ccm =>
    if ccm.mepId.toNat < maxMepId.toNat + 1 then return t.apply f config now else trap

section Arms

variable (s : Station) (f : Frame)

def dispatchCcm (now : Nat) : Trapping (Station × Reaction) := do
  match ← apply s.meps f s.config now with
  | (meps, .ok accepted) => return ({ s with meps }, .done (.ccm accepted))
  | (meps, .error cause) => return ({ s with meps }, .refused cause)

def dispatchLbm : Trapping (Station × Reaction) := do
  let id ← transactionId f
  let reply ← answer f s.own
  logged (destination reply) s (.reply reply (.loopbackReplied id))

def dispatchLbr : Trapping (Station × Reaction) :=
  match s.outstanding.loopback with
  | none => return (s, .done .ignored)
  | some id => do
    matchLbr f id s.own s.config.remoteMac
    logged (source f) { s with outstanding := s.outstanding.countLoopbackReply }
      (.done (.loopbackMatched id))

def dispatchLtm : Trapping (Station × Reaction) := do
  let r ← request f
  if r.target ≠ s.own ∨ r.ttl = 0 then return (s, .done .ignored)
  else
    let reply ← checked (Linktrace.buildReply r s.own (← vlan? f) .hit)
    return (s, .reply reply (.linktraceReplied r.id))

def dispatchLtr : Trapping (Station × Reaction) :=
  match s.outstanding.linktraceId? with
  | none => return (s, .done .ignored)
  | some id => do
    let reply ← matchLtr f s.own id
    logged (source f) { s with outstanding := s.outstanding.recordLinktraceReply id reply }
      (.done (.linktraceMatched id reply))

def dispatchRaps : Trapping (Station × Reaction) := do
  let message ← ringAps f
  return (s, .done (.raps message))

def dispatch (now : Nat) : Trapping (Station × Reaction) := settle s do
  if !(← isCfm f) then throw (.mismatch .notCfm)
  match ← opcode f with
  | .ccm => dispatchCcm s f now
  | .lbm => dispatchLbm s f
  | .lbr => dispatchLbr s f
  | .ltm => dispatchLtm s f
  | .ltr => dispatchLtr s f
  | .raps => dispatchRaps s f

end Arms

/-- The octets that are sent for a frame, with the zeros counted. -/
def onLink (f : Frame) : Trapping Octets := do
  if f.octets.length < minFrameLength then
    let missing ← sub minFrameLength f.octets.length
    return f.octets ++ List.replicate missing 0
  else return f.octets

def send (r : Reaction) : Trapping Unit :=
  match r.offered? with
  | none => return
  | some reply => do let _ ← onLink reply

/-- What an engine does with octets that it has read. -/
def handle (e : Engine) (time : Nat) (xs : Octets) : Trapping (Engine × Report) := do
  match (Frame.decode xs).1 with
  | .error cause => return (e, .decoded xs (.error cause))
  | .ok none => return (e, .decoded xs (.ok none))
  | .ok (some f) =>
    let (station, reaction) ← dispatch e.node.station f time
    send reaction
    return { e with node.station := station }.answered xs reaction

end Trapping

/-! ### Nothing stops the machine -/

lemma Ccm.mepId_le_of_receive {f : Frame} {config : Config} {c : Ccm}
    (h : receive f config = .ok c) : c.mepId ≤ maxMepId := by
  obtain ⟨h, -⟩ := of_receive h
  unfold parse at h
  obtain ⟨-, h⟩ := ok_of_guard h
  obtain ⟨hd, -, h⟩ := ok_of_bind h
  obtain ⟨-, h⟩ := ok_of_guard h
  obtain ⟨payload, -, h⟩ := ok_of_bind h
  split at h
  · obtain ⟨hid, h⟩ := ok_of_guard h
    obtain ⟨maid, -, h⟩ := ok_of_bind h
    obtain ⟨xs, -, h⟩ := ok_of_bind h
    obtain ⟨tlvs, -, h⟩ := ok_of_bind h
    obtain ⟨source, -, h⟩ := ok_of_bind h
    cases h
    exact UInt16.not_lt.1 fun hlt => hid (.inr hlt)
  · cases h

namespace Trapping

theorem apply_eq (t : MepTable) (f : Frame) (config : Config) (now : Nat) :
    apply t f config now = pure (t.apply f config now) := by
  unfold apply
  rw [receiveCcm_eq, attempt_checked, pure_bind]
  cases hc : Ccm.receive f config with
  | error cause =>
    unfold MepTable.apply
    rw [hc]
  | ok c =>
    have hid : c.mepId.toNat < maxMepId.toNat + 1 :=
      Nat.lt_succ_of_le (UInt16.le_iff_toNat_le.1 (Ccm.mepId_le_of_receive hc))
    exact if_pos hid

section Arms

variable (s : Station) {f : Frame}

lemma dispatchCcm_eq (now : Nat) :
    settle s (dispatchCcm s f now) = pure (s.dispatchCcm f now) := by
  unfold dispatchCcm Station.dispatchCcm
  rw [apply_eq, pure_bind]
  cases s.meps.apply f s.config now with
  | mk meps result => cases result <;> rfl

lemma dispatchLbm_eq (hc : f.isCfm = true) (hk : f.opcode = .ok .lbm) :
    settle s (dispatchLbm s f) = pure (s, s.dispatchLbm f) := by
  unfold dispatchLbm Station.dispatchLbm
  rw [transactionId_eq]
  cases f.transactionId with
  | error cause => rfl
  | ok id =>
    rw [checked_ok, pure_bind, answer_eq]
    cases hr : f.edited (Loopback.answer s.own) with
    | error cause => rfl
    | ok reply =>
      obtain ⟨d, source, tag, payload, h, hfits, hcode, hf⟩ :=
        Frame.exists_layout_of_opcode hc hk
      have hd := Frame.destination_eq (Loopback.of_answer hf hfits hcode hr)
      rw [checked_ok, pure_bind, destination_eq, hd]
      rfl

lemma exists_source (hc : f.isCfm = true) : ∃ m, source f = pure m := by
  obtain ⟨d, m, tag, hf⟩ := Frame.exists_ethernetHeader hc
  refine ⟨m, ?_⟩
  rw [source_eq, Frame.source_eq hf]
  rfl

lemma dispatchLbr_eq (hc : f.isCfm = true) :
    settle s (dispatchLbr s f) = pure (s.dispatchLbr f) := by
  obtain ⟨m, hm⟩ := exists_source hc
  unfold dispatchLbr Station.dispatchLbr
  cases s.outstanding.loopback with
  | none => rfl
  | some id =>
    dsimp only
    rw [matchLbr_eq, hm]
    cases Loopback.matchReply f id s.own s.config.remoteMac <;> rfl

lemma dispatchLtm_eq : settle s (dispatchLtm s f) = pure (s, s.dispatchLtm f) := by
  unfold dispatchLtm Station.dispatchLtm
  rw [request_eq]
  cases Linktrace.parseRequest f with
  | error cause => rfl
  | ok r =>
    rw [checked_ok, pure_bind, vlan?_eq, pure_bind]
    dsimp only
    split
    · rfl
    · cases Linktrace.buildReply r s.own f.vlan? .hit <;> rfl

lemma dispatchLtr_eq (hc : f.isCfm = true) :
    settle s (dispatchLtr s f) = pure (s.dispatchLtr f) := by
  obtain ⟨m, hm⟩ := exists_source hc
  unfold dispatchLtr Station.dispatchLtr Station.recordLtr
  cases s.outstanding.linktraceId? with
  | none => rfl
  | some id =>
    dsimp only
    rw [matchLtr_eq, hm]
    cases Linktrace.matchReply f s.own id <;> rfl

lemma dispatchRaps_eq : settle s (dispatchRaps s f) = pure (s, Station.dispatchRaps f) := by
  unfold dispatchRaps Station.dispatchRaps
  rw [ringAps_eq]
  cases RingAps.parse f <;> rfl

theorem dispatch_eq (f : Frame) (now : Nat) : dispatch s f now = pure (s.dispatch f now) := by
  unfold dispatch
  rw [isCfm_eq, pure_bind]
  cases hc : f.isCfm with
  | false =>
    unfold Station.dispatch
    rw [hc]
    rfl
  | true =>
    rw [if_neg (by decide), opcode_eq]
    cases hk : f.opcode with
    | error cause =>
      unfold Station.dispatch
      rw [hc, hk]
      rfl
    | ok k =>
      rw [checked_ok, pure_bind, s.dispatch_of_opcode hc now hk]
      cases k with
      | ccm => exact dispatchCcm_eq s now
      | lbm => exact dispatchLbm_eq s hc hk
      | lbr => exact dispatchLbr_eq s hc
      | ltm => exact dispatchLtm_eq s
      | ltr => exact dispatchLtr_eq s hc
      | raps => exact dispatchRaps_eq s

end Arms

lemma onLink_eq (f : Frame) : onLink f = pure f.onLink := by
  unfold onLink Frame.onLink padded
  by_cases h : f.octets.length < minFrameLength
  · rw [if_pos h, sub_eq (Nat.le_of_lt h)]
    rfl
  · rw [if_neg h, Nat.sub_eq_zero_of_le (Nat.le_of_not_lt h), List.replicate_zero, List.append_nil]

lemma send_eq (r : Reaction) : send r = pure () := by
  unfold send
  cases r.offered? with
  | none => rfl
  | some reply =>
    dsimp only
    rw [onLink_eq]
    rfl

theorem handle_eq (e : Engine) (time : Nat) (xs : Octets) :
    handle e time xs = pure (e.dispatch time xs) := by
  unfold handle
  cases hd : (Frame.decode xs).1 with
  | error cause =>
    unfold Engine.dispatch
    rw [hd]
  | ok received =>
    cases received with
    | none =>
      unfold Engine.dispatch
      rw [hd]
    | some f =>
      rw [Engine.dispatch_of_decode hd]
      dsimp only
      rw [dispatch_eq, pure_bind, send_eq, pure_bind]
      rfl

end Trapping

/-! ### What comes of octets -/

/-- Only their number keeps octets from being a frame. -/
lemma Frame.decode_eq_error_iff (xs : Octets) (cause : Error) :
    (decode xs).1 = .error cause ↔
      maxFrameLength < xs.length ∧ cause = .frameTooLarge xs.length maxFrameLength := by
  unfold decode
  by_cases he : xs = []
  · subst he
    exact ⟨fun h => (nomatch h), fun h => absurd h.1 (Nat.not_lt_zero _)⟩
  rw [if_neg he]
  unfold ofOctets
  by_cases hl : xs.length ≤ maxFrameLength
  · rw [dif_pos hl]
    exact ⟨fun h => (nomatch h), fun h => absurd h.1 (Nat.not_lt.2 hl)⟩
  · rw [dif_neg hl]
    exact ⟨fun h => ⟨Nat.lt_of_not_le hl, (Except.error.inj h).symm⟩, fun h => by rw [h.2]; rfl⟩

lemma Frame.length_le_of_decode {xs : Octets} {received : Option Frame}
    (h : (decode xs).1 = .ok received) : xs.length ≤ maxFrameLength := by
  by_contra hl
  rw [(decode_eq_error_iff xs _).2 ⟨Nat.lt_of_not_le hl, rfl⟩] at h
  exact nomatch h

namespace Engine

variable (e : Engine)

/-- What an engine may report on octets: that they are too many, and if they are not, success, a
cause for which frames are dropped in silence, or what its link says to the reply. -/
inductive Harmless (time : Nat) (xs : Octets) : Except Error (Option Dispatched) → Prop
  | tooLong (h : maxFrameLength < xs.length) :
      Harmless time xs (.error (.frameTooLarge xs.length maxFrameLength))
  | ok (hl : xs.length ≤ maxFrameLength) (what : Option Dispatched) : Harmless time xs (.ok what)
  | dropped {cause : Error} (hl : xs.length ≤ maxFrameLength) (h : cause.isDrop = true) :
      Harmless time xs (.error cause)
  | unsent {f reply : Frame} {what : Dispatched} {cause : Error}
      (hd : (Frame.decode xs).1 = .ok (some f))
      (hr : (e.node.dispatch f time).2 = .reply reply what)
      (hv : e.wire.verdict e.wire.offered reply.onLink = .error cause) :
      Harmless time xs (.error cause)

/-- Nothing has stopped that was running before, and nothing has crashed. -/
structure RunsOn (e' : Engine) : Prop where
  live : e'.live = e.live
  cancelled : e'.cancelled = e.cancelled
  crashed : e'.crashed = e.crashed

variable {e}

/-- What the link says to a reply decides the outcome. -/
lemma answered_reply (h : e.crashes e.wire.offered = false) (xs : Octets) (reply : Frame)
    (what : Dispatched) : e.answered xs (.reply reply what) =
      ({ e with wire := (e.wire.offer e.now reply).1 },
        .decoded xs ((e.wire.verdict e.wire.offered reply.onLink).map fun _ => some what)) := by
  have ho : e.offerAll [reply] = ({ e with wire := (e.wire.offer e.now reply).1 },
      some [e.wire.verdict e.wire.offered reply.onLink]) := by
    unfold offerAll
    rw [h]
    rfl
  unfold answered
  change (match e.offerAll [reply] with
    | (e, none) => (e.fail .dispatch, Report.quiet)
    | (e, some verdicts) => (e, .decoded xs
      (((Reaction.reply reply what).outcome (verdicts.headD (.ok ()))).map some))) = _
  rw [ho]
  cases e.wire.verdict e.wire.offered reply.onLink <;> rfl

/-- Octets never crash an engine, unless its link does when it is offered the reply. No read leads
out of them and no offset is too large, octets that are too many are told apart by their number
alone, and every other failure is a silent drop or comes from the link. -/
theorem octets_harmless (e : Engine) (time : Nat) (xs : Octets) :
    Trapping.handle e time xs = pure (e.dispatch time xs) ∧
    (∀ cause, (Frame.decode xs).1 = .error cause ↔
      maxFrameLength < xs.length ∧ cause = .frameTooLarge xs.length maxFrameLength) ∧
    ((e.RunsOn (e.dispatch time xs).1 ∧
        ∃ result, (e.dispatch time xs).2 = .decoded xs result ∧ e.Harmless time xs result) ∨
      (e.crashes e.wire.offered = true ∧ ∃ f reply what, (Frame.decode xs).1 = .ok (some f) ∧
        (e.node.dispatch f time).2 = .reply reply what)) := by
  refine ⟨Trapping.handle_eq e time xs, Frame.decode_eq_error_iff xs, ?_⟩
  cases hd : (Frame.decode xs).1 with
  | error cause =>
    obtain ⟨hlong, rfl⟩ := (Frame.decode_eq_error_iff xs cause).1 hd
    unfold dispatch
    rw [hd]
    exact .inl ⟨⟨rfl, rfl, rfl⟩, _, rfl, .tooLong hlong⟩
  | ok received =>
    have hl := Frame.length_le_of_decode hd
    cases received with
    | none =>
      unfold dispatch
      rw [hd]
      exact .inl ⟨⟨rfl, rfl, rfl⟩, _, rfl, .ok hl none⟩
    | some f =>
      have hdrops := e.node.station.drops_dispatch f time
      rw [dispatch_of_decode hd]
      cases hr : (e.node.dispatch f time).2 with
      | refused cause =>
        change (e.node.station.dispatch f time).2 = _ at hr
        rw [hr] at hdrops
        exact .inl ⟨⟨rfl, rfl, rfl⟩, _, rfl, .dropped hl (hdrops.isDrop rfl)⟩
      | done what => exact .inl ⟨⟨rfl, rfl, rfl⟩, _, rfl, .ok hl (some what)⟩
      | reply reply what =>
        cases hcrash : e.crashes e.wire.offered with
        | true => exact .inr ⟨rfl, f, reply, what, rfl, hr⟩
        | false =>
          rw [answered_reply (e := { e with node := (e.node.dispatch f time).1 }) hcrash]
          refine .inl ⟨⟨rfl, rfl, rfl⟩, _, rfl, ?_⟩
          cases hv : e.wire.verdict e.wire.offered reply.onLink with
          | error cause => exact .unsent hd hr hv
          | ok u => exact .ok hl (some what)

end Engine
end RingContinuity
