import RingContinuity.Link.Tap
import RingContinuity.Proofs.ReceivedFrames

/-!
# What a socket hands on

A packet socket sees every frame on its link. Which of them it hands on is said here octet by octet:
those of other stations with the EtherType of continuity and ring protection messages, behind at
most one tag, and not longer than a frame may be. What it hands on is the datagram as it came, and
over a whole life nothing of that is lost, whatever reads fail in between.
-/

namespace RingContinuity

namespace PacketSocket

/-- The octets behind two addresses, of which the second is not `own`, start with the EtherType of
continuity and ring protection messages, or with a tag and then this type. -/
inductive FromOther (own : MacAddress) : Octets → Prop
  | untagged {source : MacAddress} (h : source ≠ own) (destination : MacAddress) (rest : Octets) :
      FromOther own (destination.octets ++ source.octets ++ 0x89 :: 0x02 :: rest)
  | tagged {source : MacAddress} (h : source ≠ own) (destination : MacAddress) (hi lo : UInt8)
      (rest : Octets) : FromOther own (destination.octets ++ source.octets ++
        0x81 :: 0x00 :: hi :: lo :: 0x89 :: 0x02 :: rest)

/-- A datagram that is to be handed on to the station of address `own`. -/
structure Wanted (own : MacAddress) (xs : Octets) : Prop where
  length : xs.length ≤ maxFrameLength
  other : FromOther own xs

section Reception

variable (s : PacketSocket) {own : MacAddress} {xs ys : Octets} {f : Frame}

lemma fromOther_iff : FromOther own xs ↔ ∃ destination source tag rest,
    source ≠ own ∧ xs = Frame.ethernetHeader destination source tag ++ rest := by
  constructor
  · intro h
    cases h with
    | @untagged source h destination rest =>
      refine ⟨destination, source, none, rest, h, ?_⟩
      simp only [Frame.ethernetHeader, List.append_nil, List.append_assoc]
      rfl
    | @tagged source h destination hi lo rest =>
      refine ⟨destination, source, some (VlanTag.ofTci (Octets.word16 hi lo)), rest, h, ?_⟩
      simp only [Frame.ethernetHeader, VlanTag.tci_ofTci, Octets.be16_word16, List.append_assoc]
      rfl
  · rintro ⟨destination, source, tag, rest, h, rfl⟩
    simp only [Frame.ethernetHeader, List.append_assoc]
    rw [← List.append_assoc]
    cases tag with
    | none => exact .untagged h destination rest
    | some t => exact .tagged h destination _ _ rest

lemma admits_iff : s.admits f = true ↔ FromOther s.own f.octets := by
  rw [fromOther_iff]
  unfold admits
  constructor
  · intro h
    split at h
    · next source hs =>
      obtain ⟨hne, hc⟩ := Bool.and_eq_true_iff.1 h
      obtain ⟨destination, source', tag, hf⟩ := Frame.exists_ethernetHeader hc
      rw [Frame.source_eq hf, Except.ok.injEq] at hs
      subst hs
      exact ⟨destination, source', tag, _, of_decide_eq_true hne, hf⟩
    · exact nomatch h
  · rintro ⟨destination, source, tag, rest, hne, hf⟩
    rw [Frame.source_eq hf, Frame.isCfm_eq hf]
    exact Bool.and_eq_true_iff.2 ⟨decide_eq_true hne, rfl⟩

lemma accept?_eq_some_iff : s.accept? xs = some ys ↔ Wanted s.own xs ∧ ys = xs := by
  unfold accept? Frame.ofOctets
  by_cases hl : xs.length ≤ maxFrameLength
  · rw [dif_pos hl]
    dsimp only
    have hw : Wanted s.own xs ↔ s.admits ⟨xs, none, hl⟩ = true := by
      rw [admits_iff]
      exact ⟨Wanted.other, Wanted.mk hl⟩
    rw [hw]
    cases s.admits ⟨xs, none, hl⟩ with
    | true => exact ⟨fun h => ⟨rfl, (Option.some.inj h).symm⟩, fun h => congrArg some h.2.symm⟩
    | false => exact ⟨nofun, nofun⟩
  · rw [dif_neg hl]
    exact ⟨nofun, fun h => absurd h.1.length hl⟩

lemma accept?_eq_none_iff : s.accept? xs = none ↔ ¬ Wanted s.own xs := by
  rw [Option.eq_none_iff_forall_ne_some]
  constructor
  · intro h hw
    exact h xs (s.accept?_eq_some_iff.2 ⟨hw, rfl⟩)
  · intro h ys hy
    exact h (s.accept?_eq_some_iff.1 hy).1

/-- What is left of a datagram that a read cuts is still too long for a frame. -/
lemma accept?_take : s.accept? (xs.take bufferLength) = s.accept? xs := by
  by_cases hl : xs.length ≤ bufferLength
  · rw [List.take_of_length_le hl]
  · have hlong : ∀ ys : Octets, bufferLength ≤ ys.length → s.accept? ys = none := by
      intro ys hys
      rw [accept?_eq_none_iff]
      intro hw
      have hle := hw.length
      unfold bufferLength at hys
      unfold maxFrameLength at hle
      omega
    have htake : (xs.take bufferLength).length = bufferLength :=
      List.length_take_of_le (Nat.le_of_not_le hl)
    rw [hlong _ htake.ge, hlong xs (Nat.le_of_not_le hl)]

lemma receive_datagram (xs : Octets) : s.receive (.ok xs) = .ok (s.accept? xs) :=
  congrArg Except.ok s.accept?_take

lemma receive_failure (cause : SystemError) : s.receive (.error cause) =
    if cause ∈ [SystemError.wouldBlock, .timedOut, .interrupted] then .ok none
    else .error (.io cause) := by
  unfold receive SystemError.meansNothingYet
  simp only [List.mem_cons, List.not_mem_nil, or_false, Bool.or_eq_true, decide_eq_true_eq,
    or_assoc]

instance (own : MacAddress) : DecidablePred (Wanted own) := fun xs =>
  decidable_of_iff ((PacketSocket.mk "" own).accept? xs = some xs)
    (by rw [accept?_eq_some_iff]; exact and_iff_left rfl)

end Reception
end PacketSocket

/-! ### The life of a socket -/

/-- A frame of the other station arrives, or the program reads; the read may be made to fail. -/
inductive TapEvent
  | arrive (xs : Octets)
  | receive (failure : Option SystemError)

namespace Tap

def step (t : Tap) : TapEvent → Tap
  | .arrive xs => t.arrive xs
  | .receive failure => (t.receive failure).1

/-- What the reads hand on, in order. -/
def handedOn (t : Tap) : List TapEvent → List Octets
  | [] => []
  | .arrive xs :: evs => (t.arrive xs).handedOn evs
  | .receive failure :: evs => match t.receive failure with
    | (t, .ok (some xs)) => xs :: t.handedOn evs
    | (t, _) => t.handedOn evs

def run (t : Tap) (evs : List TapEvent) : Tap := evs.foldl step t

/-- The frames that arrive, in order. -/
def arrivals (evs : List TapEvent) : List Octets :=
  evs.filterMap fun
    | .arrive xs => some xs
    | .receive _ => none

/-- A read takes the oldest frame, or it fails and takes nothing. -/
lemma receive_cases (t : Tap) (failure : Option SystemError) :
    (∃ xs rest, t.queue = xs :: rest ∧
      t.receive failure = ({ t with queue := rest }, .ok (t.socket.accept? xs))) ∨
    ∃ result, t.receive failure = (t, result) ∧ ∀ xs, result ≠ .ok (some xs) := by
  have hfail : ∀ cause xs, t.socket.receive (.error cause) ≠ .ok (some xs) := by
    intro cause xs h
    rw [PacketSocket.receive_failure] at h
    split at h <;> cases h
  unfold receive
  cases failure with
  | some cause => exact .inr ⟨_, rfl, hfail cause⟩
  | none =>
    cases hq : t.queue with
    | nil => exact .inr ⟨_, rfl, hfail .wouldBlock⟩
    | cons xs rest =>
      refine .inl ⟨xs, rest, rfl, ?_⟩
      rw [← PacketSocket.receive_datagram]

/-- What is handed on and what of the queue is still to be handed on are together what was wanted of
the old queue and of the arrivals. -/
theorem handedOn_append (t : Tap) (evs : List TapEvent) :
    t.handedOn evs ++ (t.run evs).queue.filter (PacketSocket.Wanted t.socket.own) =
      (t.queue ++ arrivals evs).filter (PacketSocket.Wanted t.socket.own) := by
  induction evs generalizing t with
  | nil => exact congrArg (List.filter _) (List.append_nil _).symm
  | cons ev evs ih =>
    cases ev with
    | arrive xs =>
      change (t.arrive xs).handedOn evs ++ ((t.arrive xs).run evs).queue.filter _ = _
      rw [show t.socket.own = (t.arrive xs).socket.own from rfl, ih]
      exact congrArg (List.filter _) (List.append_assoc t.queue [xs] (arrivals evs))
    | receive failure =>
      change t.handedOn (.receive failure :: evs) ++
        ((t.receive failure).1.run evs).queue.filter _ =
          (t.queue ++ arrivals evs).filter (PacketSocket.Wanted t.socket.own)
      unfold handedOn
      rcases t.receive_cases failure with ⟨xs, rest, hq, hr⟩ | ⟨result, hr, hno⟩
      · have hrest := ih { t with queue := rest }
        rw [hr, hq, List.cons_append]
        by_cases hw : PacketSocket.Wanted t.socket.own xs
        · rw [t.socket.accept?_eq_some_iff.2 ⟨hw, rfl⟩, List.filter_cons,
            if_pos (decide_eq_true hw)]
          exact congrArg (xs :: ·) hrest
        · rw [t.socket.accept?_eq_none_iff.2 hw, List.filter_cons,
            if_neg fun h => hw (of_decide_eq_true h)]
          exact hrest
      · rw [hr, ← ih t]
        match result, hno with
        | .ok none, _ => rfl
        | .ok (some xs), hno => exact absurd rfl (hno xs)
        | .error cause, _ => rfl

end Tap

/-- A read hands on a datagram if and only if it is one for the station, and then as it came. Every
other datagram counts as nothing, and so do reads that would block, time out or are interrupted; the
failure of any other read is reported. Over a whole life, a socket hands on exactly the wanted
frames that have arrived, in their order, but for those that are still waiting. -/
theorem hands_on_exactly (s : PacketSocket) :
    (∀ xs ys, s.receive (.ok xs) = .ok (some ys) ↔ PacketSocket.Wanted s.own xs ∧ ys = xs) ∧
    (∀ xs, s.receive (.ok xs) = .ok none ↔ ¬ PacketSocket.Wanted s.own xs) ∧
    (∀ cause, s.receive (.error cause) =
      if cause ∈ [SystemError.wouldBlock, .timedOut, .interrupted] then .ok none
      else .error (.io cause)) ∧
    ∀ (queue : List Octets) (evs : List TapEvent),
      (Tap.mk s queue).handedOn evs ++
          ((Tap.mk s queue).run evs).queue.filter (PacketSocket.Wanted s.own) =
        (queue ++ Tap.arrivals evs).filter (PacketSocket.Wanted s.own) := by
  refine ⟨fun xs ys => ?_, fun xs => ?_, s.receive_failure, fun queue evs => ?_⟩
  · rw [s.receive_datagram, Except.ok.injEq, s.accept?_eq_some_iff]
  · rw [s.receive_datagram, Except.ok.injEq, s.accept?_eq_none_iff]
  · exact (Tap.mk s queue).handedOn_append evs

end RingContinuity
