import RingContinuity.Proofs.CcmGrammar
import RingContinuity.Proofs.LoopbackReplies

/-!
# Silent drops

What a frame is refused for is that it is malformed or not for the station, and never a fault of the
station. Readers fail in no other way, and this passes from one reader to the next.
-/

namespace RingContinuity

/-- If the computation fails, then for a cause for which frames are dropped in silence. -/
structure Drops {α : Type} (x : Except Error α) : Prop where
  isDrop : ∀ {cause}, x = .error cause → cause.isDrop = true

namespace Drops

variable {α β : Type}

lemma ok (a : α) : Drops (.ok a) := ⟨fun h => nomatch h⟩

lemma error {cause : Error} (h : cause.isDrop = true) : Drops (.error cause : Except Error α) :=
  ⟨fun he => Except.error.inj he ▸ h⟩

lemma bind {x : Except Error α} {k : α → Except Error β} (hx : Drops x) (hk : ∀ a, Drops (k a)) :
    Drops (x >>= k) := by
  cases x with
  | error cause => exact error (hx.isDrop rfl)
  | ok a => exact hk a

lemma guard {p : Prop} [Decidable p] {cause : Error} {k : α → Except Error β}
    {rest : Except Error β} (hc : cause.isDrop = true) (hr : Drops rest) :
    Drops (if p then (throw cause >>= k) else rest) := by
  split
  · exact error hc
  · exact hr

end Drops

lemma Malforms.drops {α : Type} {x : Except Error α} (h : Malforms x) : Drops x :=
  ⟨fun hx => by
    obtain ⟨why, rfl⟩ := h.isMalformed hx
    rfl⟩

/-! ### Frames -/

namespace Frame

variable (f : Frame)

lemma drops_need {α : Type} (n : Nat) (field : FrameField) (read : n ≤ f.octets.length → α) :
    Drops (f.need n field read) := (f.malforms_need ..).drops

lemma drops_header : Drops f.header := f.drops_need ..

lemma drops_opcode : Drops f.opcode := by
  refine f.drops_header.bind fun h => ?_
  unfold Opcode.ofCode
  split
  case h_7 => exact .error rfl
  all_goals exact .ok _

lemma drops_writeAt (off : Nat) (xs : Octets) (name : FrameField) :
    Drops (f.edited (writeAt off xs name)) := by
  unfold edited EStateM.run writeAt
  split
  · next h =>
    split at h
    · exact .ok _
    · cases h
  · next h =>
    split at h
    · cases h
    · cases h
      exact .error rfl

lemma drops_setOpcode (k : Opcode) : Drops (f.edited (setOpcode k)) := by
  unfold setOpcode
  rw [edited_get, edited_bind]
  exact (f.drops_writeAt ..).bind fun _ => .ok _

end Frame

/-! ### Names -/

lemma Maid.drops_checkNames (m : Maid) (domain association : String) :
    Drops (m.checkNames domain association) := by
  unfold checkNames
  split
  · exact .error rfl
  split
  · exact .error rfl
  · exact .ok _

/-! ### Messages -/

section Messages

variable (f : Frame)

lemma Ccm.drops_parse : Drops (parse f) := by
  rcases parse_cases f with ⟨c, h, -⟩ | ⟨why, h, -⟩ | ⟨why, h⟩ <;> rw [h]
  · exact .ok c
  · exact .error rfl
  · exact .error rfl

lemma Ccm.drops_receive (config : Config) : Drops (receive f config) :=
  .guard rfl ((drops_parse f).bind fun _ => .guard rfl (.ok _))

lemma MepTable.drops_apply (t : MepTable) (config : Config) (now : Nat) :
    Drops (t.apply f config now).2 := by
  rcases t.apply_cases f config now with
    ⟨cause, hr, h⟩ | ⟨c, -, ⟨-, h⟩ | ⟨-, ⟨cause, hn, h⟩ | ⟨-, h⟩⟩⟩
  · rw [h]
    exact .error ((Ccm.drops_receive f config).isDrop hr)
  · rw [h]
    exact .error rfl
  · rw [h]
    exact .error ((c.maid.drops_checkNames _ _).isDrop hn)
  · rw [h]
    exact .ok _

lemma Loopback.drops_answer (own : MacAddress) : Drops (f.edited (answer own)) := by
  unfold answer
  rw [Frame.edited_get, Frame.edited_ofExcept]
  refine (f.drops_need ..).bind fun source => ?_
  rw [Frame.edited_guard]
  refine .guard rfl ?_
  rw [Frame.edited_ofExcept]
  refine (f.drops_need ..).bind fun destination => ?_
  rw [Frame.edited_guard]
  refine .guard rfl ?_
  rw [Frame.edited_ofExcept]
  refine f.drops_opcode.bind fun opcode => ?_
  rw [Frame.edited_guard]
  refine .guard rfl ?_
  rw [Frame.edited_bind]
  refine (f.drops_writeAt ..).bind fun g => ?_
  rw [Frame.edited_bind]
  exact (g.drops_writeAt ..).bind fun g' => g'.drops_setOpcode .lbr

lemma Loopback.drops_matchId (id : UInt32) : Drops (matchId f id) := by
  refine f.drops_header.bind fun h => .guard rfl ((f.drops_need ..).bind fun received => ?_)
  split
  · exact .error rfl
  · exact .ok _

lemma Loopback.drops_matchReply (id : UInt32) (own : MacAddress) (peer : Option MacAddress) :
    Drops (matchReply f id own peer) := by
  rw [matchReply_eq_match]
  refine .guard rfl ((f.drops_need ..).bind fun destination => .guard rfl ?_)
  cases peer with
  | none => exact drops_matchId f id
  | some target => exact (f.drops_need ..).bind fun source => .guard rfl (drops_matchId f id)

lemma Linktrace.drops_parseRequest : Drops (parseRequest f) := by
  unfold parseRequest
  refine .guard rfl (f.drops_header.bind fun h => .guard rfl ?_)
  refine (f.drops_need ..).bind fun payload => ?_
  split
  · exact .ok _
  · exact .error rfl

lemma Linktrace.drops_matchReply (own : MacAddress) (id : UInt32) :
    Drops (matchReply f own id) := by
  unfold matchReply
  refine .guard rfl ((f.drops_need ..).bind fun destination => .guard rfl ?_)
  refine f.drops_header.bind fun h => .guard rfl ((f.drops_need ..).bind fun payload => ?_)
  split
  · exact .guard rfl (.ok _)
  · exact .error rfl

lemma RingAps.drops_parse : Drops (parse f) :=
  .guard rfl (f.drops_header.bind fun _ => .guard rfl ((f.drops_need ..).bind fun _ => .ok _))

end Messages

/-! ### Stations -/

namespace Station

variable (s : Station) (f : Frame) (now : Nat)

lemma drops_dispatchLbm : Drops ((s.dispatchLbm f).outcome (.ok ())) := by
  unfold dispatchLbm
  cases hid : f.transactionId with
  | error cause => exact .error ((f.drops_need ..).isDrop hid)
  | ok id =>
    dsimp only
    cases hr : f.edited (Loopback.answer s.own) with
    | error cause => exact .error ((Loopback.drops_answer f s.own).isDrop hr)
    | ok reply => exact .ok _

lemma drops_dispatchLbr : Drops ((s.dispatchLbr f).2.outcome (.ok ())) := by
  unfold dispatchLbr
  split
  · exact .ok _
  · next id _ =>
    cases hr : Loopback.matchReply f id s.own s.config.remoteMac with
    | error cause => exact .error ((Loopback.drops_matchReply f ..).isDrop hr)
    | ok u => exact .ok _

/-- The reply to a linktrace message always fits, so that nothing fails but the reading of the
message. -/
lemma drops_dispatchLtm : Drops ((s.dispatchLtm f).outcome (.ok ())) := by
  unfold dispatchLtm
  cases hr : Linktrace.parseRequest f with
  | error cause => exact .error ((Linktrace.drops_parseRequest f).isDrop hr)
  | ok r =>
    dsimp only
    split
    · exact .ok _
    · obtain ⟨reply, hreply, -⟩ := Linktrace.buildReply_ok s.own r f.vlan? .hit
      rw [hreply]
      exact .ok _

lemma drops_dispatchLtr : Drops ((s.dispatchLtr f).2.outcome (.ok ())) := by
  unfold dispatchLtr recordLtr
  split
  · exact .ok _
  · next id _ =>
    cases hr : Linktrace.matchReply f s.own id with
    | error cause => exact .error ((Linktrace.drops_matchReply f ..).isDrop hr)
    | ok reply => exact .ok _

/-- A station fails at a frame only for what a frame is dropped for in silence, as long as the link
takes its reply. -/
theorem drops_dispatch : Drops ((s.dispatch f now).2.outcome (.ok ())) := by
  unfold dispatch
  split
  · exact .error rfl
  cases hk : f.opcode with
  | error cause => exact .error (f.drops_opcode.isDrop hk)
  | ok k =>
    cases k with
    | ccm =>
      have h := MepTable.drops_apply f s.meps s.config now
      unfold dispatchCcm
      cases hm : s.meps.apply f s.config now with
      | mk meps result =>
        rw [hm] at h
        cases result with
        | error cause => exact .error (h.isDrop rfl)
        | ok accepted => exact .ok _
    | lbm => exact s.drops_dispatchLbm f
    | lbr => exact s.drops_dispatchLbr f
    | ltm => exact s.drops_dispatchLtm f
    | ltr => exact s.drops_dispatchLtr f
    | raps =>
      have h := RingAps.drops_parse f
      unfold dispatchRaps
      cases hp : RingAps.parse f with
      | error cause => exact .error (h.isDrop hp)
      | ok message => exact .ok _

end Station
end RingContinuity
