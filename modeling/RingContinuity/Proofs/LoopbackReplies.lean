import RingContinuity.Proofs.FrameBuilding

/-!
# Loopback replies

A loopback message that is answered is turned round in place: it goes back to its source, from the
station that answers it, and keeps its tag, its id and everything behind that. A reply is matched by
the station that it goes to, if it comes from the target of that station and has the id of its last
loopback message.
-/

namespace RingContinuity

namespace Loopback

/-! ### Checks and changes -/

/-- Everything that is checked of a message before it is turned round; the result is its source. -/
def check (own : MacAddress) (f : Frame) : Except Error MacAddress := do
  let source ← f.source
  if source.isGroup then throw (.mismatch (.lbmFromGroup source))
  let destination ← f.destination
  if !(destination.isCfmGroup || destination = own) then
    throw (.mismatch (.lbmAddressee destination own))
  let opcode ← f.opcode
  if opcode ≠ .lbm then throw (.mismatch .notLbm)
  return source

/-- The three changes that turn a message from `source` round. -/
def turn (own source : MacAddress) : Frame.Edit Unit := do
  Frame.setDestination source
  Frame.setSource own
  Frame.setOpcode .lbr

/-- On `f`, the edit is the computation `x`, which leaves the frame alone, and then `k`. -/
def Checks {α : Type} (f : Frame) (e : Frame.Edit Unit) (x : Except Error α)
    (k : α → Frame.Edit Unit) : Prop :=
  e f = match x with
    | .ok a => k a f
    | .error cause => .error cause f

section Checks

variable {α β : Type} {f : Frame} {e : Frame.Edit Unit} {k : β → Frame.Edit Unit}

lemma Checks.bind {x : Except Error α} {r : α → Frame.Edit Unit} {y : α → Except Error β}
    (h : ∀ a, Checks f (r a) (y a) k) : Checks f (MonadExcept.ofExcept x >>= r) (x >>= y) k := by
  cases x with
  | error cause => rfl
  | ok a => exact h a

lemma Checks.guard {p : Prop} [Decidable p] {cause : Error} {r : α → Frame.Edit Unit}
    {y : α → Except Error β} {x : Except Error β} (h : Checks f e x k) :
    Checks f (if p then (throw cause >>= r) else e) (if p then (throw cause >>= y) else x) k := by
  by_cases hp : p
  · rw [if_pos hp, if_pos hp]
    rfl
  · rw [if_neg hp, if_neg hp]
    exact h

end Checks

/-- The changes come behind all checks. -/
theorem checks_answer (own : MacAddress) (f : Frame) :
    Checks f (answer own) (check own f) (turn own) := by
  change Checks f (MonadExcept.ofExcept f.source >>= _) _ _
  refine .bind fun source => .guard (.bind fun destination => .guard (.bind fun opcode => .guard ?_))
  rfl

lemma check_of_fields {f : Frame} {d s : MacAddress} (own : MacAddress)
    (hs : f.source = .ok s) (hd : f.destination = .ok d) (hk : f.opcode = .ok .lbm) :
    check own f =
      if s.isGroup then .error (.mismatch (.lbmFromGroup s))
      else if d.isCfmGroup || d = own then .ok s
      else .error (.mismatch (.lbmAddressee d own)) := by
  unfold check
  rw [hs, hd, hk]
  by_cases hg : s.isGroup = true
  · rw [if_pos hg]
    simp only [bind, Except.bind, hg, if_true]
    rfl
  · rw [if_neg hg]
    by_cases ha : (d.isCfmGroup || d = own) = true
    · simp only [bind, Except.bind, hg, ha, if_true]
      rfl
    · simp only [bind, Except.bind, hg, ha]
      rfl

section Answer

variable {f : Frame} {d s own : MacAddress} {tag : Option VlanTag} {h : CfmHeader}
  {payload : Octets}

theorem edited_answer (own : MacAddress)
    (hf : f.octets = Frame.ethernetHeader d s tag ++ (h.octets ++ payload)) (hh : h.Fits)
    (hk : h.opcode = Opcode.lbm.code) : ∃ reply : Frame,
      reply.octets = Frame.ethernetHeader s own tag ++
        (({ h with opcode := Opcode.lbr.code } : CfmHeader).octets ++ payload) ∧
      f.edited (answer own) =
        if s.isGroup then .error (.mismatch (.lbmFromGroup s))
        else if d.isCfmGroup || d = own then .ok reply
        else .error (.mismatch (.lbmAddressee d own)) := by
  obtain ⟨f₁, h₁, ho₁⟩ := Frame.setDestination_eq hf s
  obtain ⟨f₂, h₂, ho₂⟩ := Frame.setSource_eq ho₁ own
  obtain ⟨reply, h₃, ho₃⟩ := Frame.setOpcode_eq ho₂ .lbr
  refine ⟨reply, ho₃, ?_⟩
  have hlbm : f.opcode = .ok .lbm := by
    rw [Frame.opcode_eq hf hh, hk]
    rfl
  have hturn : turn own s f = .ok () reply := by
    unfold turn
    rw [Frame.Edit.bind_ok h₁, Frame.Edit.bind_ok h₂, h₃]
  have hanswer := checks_answer own f
  unfold Checks at hanswer
  rw [check_of_fields own (Frame.source_eq hf) (Frame.destination_eq hf) hlbm] at hanswer
  unfold Frame.edited EStateM.run
  rw [hanswer]
  split_ifs
  · rfl
  · dsimp only
    rw [hturn]
  · rfl

lemma of_answer {reply : Frame}
    (hf : f.octets = Frame.ethernetHeader d s tag ++ (h.octets ++ payload)) (hh : h.Fits)
    (hk : h.opcode = Opcode.lbm.code) (hr : f.edited (answer own) = .ok reply) :
    reply.octets = Frame.ethernetHeader s own tag ++
      (({ h with opcode := Opcode.lbr.code } : CfmHeader).octets ++ payload) := by
  obtain ⟨reply', ho, he⟩ := edited_answer own hf hh hk
  rw [hr] at he
  split_ifs at he
  cases he
  exact ho

end Answer

/-- What is left to check once it is settled whom a reply comes from. -/
def matchId (f : Frame) (id : UInt32) : Except Error Unit := do
  let header ← f.header
  if header.opcode ≠ Opcode.lbr.code then throw (.mismatch .notLbr)
  let received ← f.transactionId
  if received ≠ id then throw (.mismatch (.loopbackId id received))

lemma matchReply_eq_match (f : Frame) (id : UInt32) (own : MacAddress)
    (peer : Option MacAddress) : matchReply f id own peer = (do
      if !f.isCfm then throw (.mismatch .notCfm)
      let destination ← f.destination
      if destination ≠ own then throw (.mismatch (.lbrAddressee destination own))
      match peer with
      | none => matchId f id
      | some peer => do
        let source ← f.source
        if source ≠ peer then throw (.mismatch (.lbrSource source peer))
        matchId f id) := by
  cases peer <;> rfl

lemma of_matchReply {f : Frame} {id : UInt32} {own : MacAddress} {peer : Option MacAddress}
    (h : matchReply f id own peer = .ok ()) :
    f.destination = .ok own ∧ (∀ target, peer = some target → f.source = .ok target) ∧
      f.transactionId = .ok id := by
  rw [matchReply_eq_match] at h
  obtain ⟨-, h⟩ := ok_of_guard h
  obtain ⟨destination, hd, h⟩ := ok_of_bind h
  obtain ⟨hdo, h⟩ := ok_of_guard h
  rw [Classical.not_not.1 hdo] at hd
  obtain ⟨hs, h⟩ : (∀ target, peer = some target → f.source = .ok target) ∧
      matchId f id = .ok () := by
    cases peer with
    | none => exact ⟨nofun, h⟩
    | some target =>
      obtain ⟨source, hs, h⟩ := ok_of_bind h
      obtain ⟨hst, h⟩ := ok_of_guard h
      rw [Classical.not_not.1 hst] at hs
      refine ⟨fun _ ht => ?_, h⟩
      cases ht
      exact hs
  obtain ⟨header, -, h⟩ := ok_of_bind h
  obtain ⟨-, h⟩ := ok_of_guard h
  obtain ⟨received, hr, h⟩ := ok_of_bind h
  by_cases hri : received = id
  · rw [hri] at hr
    exact ⟨hd, hs, hr⟩
  · rw [if_pos hri] at h
    exact nomatch h

end Loopback

/-- What the reaction to a frame says about the frame. -/
def Reaction.Justified (s : Station) (f : Frame) : Reaction → Prop
  | .done (.loopbackMatched id) =>
    f.opcode = .ok .lbr ∧ Loopback.matchReply f id s.own s.config.remoteMac = .ok ()
  | .reply g _ => (f.opcode = .ok .lbm ∧ f.edited (Loopback.answer s.own) = .ok g) ∨
    ∃ r, Linktrace.buildReply r s.own f.vlan? .hit = .ok g
  | _ => True

namespace Station

theorem justified_dispatch (s : Station) (f : Frame) (now : Nat) :
    (s.dispatch f now).2.Justified s f := by
  unfold dispatch
  by_cases hc : (!f.isCfm) = true
  · rw [if_pos hc]
    trivial
  rw [if_neg hc]
  cases ho : f.opcode with
  | error cause => trivial
  | ok k =>
    cases k with
    | ccm =>
      dsimp only [dispatchCcm]
      split <;> trivial
    | lbm =>
      dsimp only
      unfold dispatchLbm
      split
      · trivial
      · split
        · trivial
        · next hr => exact .inl ⟨ho, hr⟩
    | lbr =>
      dsimp only
      unfold dispatchLbr
      split
      · trivial
      · split
        · trivial
        · next hm => exact ⟨ho, hm⟩
    | ltm =>
      dsimp only
      unfold dispatchLtm
      split
      · trivial
      · split
        · trivial
        · split
          · trivial
          · next hr => exact .inr ⟨_, hr⟩
    | ltr =>
      dsimp only
      unfold dispatchLtr recordLtr
      split
      · trivial
      · split <;> trivial
    | raps =>
      dsimp only
      unfold dispatchRaps
      split <;> trivial

end Station
end RingContinuity
