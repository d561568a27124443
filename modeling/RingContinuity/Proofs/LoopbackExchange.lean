import RingContinuity.Proofs.LoopbackReplies
import RingContinuity.Proofs.Network
import RingContinuity.Proofs.OutstandingRequests
import RingContinuity.Proofs.ReceivedFrames

/-!
# A loopback exchange

From the slot in which a station sends its loopback message, over the answer of the target, to the
station that counts the reply, or refuses it because it has asked again in the meantime. What goes
over the link is padded twice, and the target turns the padded message round in place.
-/

namespace RingContinuity

section Reply

variable {f : Frame} {own source : MacAddress} {tag : Option VlanTag} {h : CfmHeader}
  {received : UInt32} {rest : Octets}

/-- A loopback reply from the peer to the station is matched by its id alone. -/
theorem Loopback.matchReply_eq {peer : Option MacAddress}
    (hf : f.octets = Frame.ethernetHeader own source tag ++
      (h.octets ++ (Octets.be32 received ++ rest)))
    (hh : h.Fits) (hk : h.opcode = Opcode.lbr.code)
    (hp : ∀ target, peer = some target → source = target) (id : UInt32) :
    matchReply f id own peer =
      if received = id then .ok () else .error (.mismatch (.loopbackId id received)) := by
  have hid : (f.transactionId >>= fun received => if received ≠ id
      then throw (.mismatch (.loopbackId id received)) else pure ()) =
        if received = id then Except.ok () else .error (.mismatch (.loopbackId id received)) := by
    rw [Frame.transactionId_eq hf]
    by_cases hr : received = id
    · rw [if_pos hr, hr]
      exact if_neg (not_not_intro rfl)
    · rw [if_neg hr]
      exact if_pos hr
  rw [← hid]
  unfold matchReply
  rw [Frame.isCfm_eq hf, Frame.destination_eq hf, Frame.header_eq hf hh]
  cases peer with
  | none => simp [bind, Except.bind, hk]
  | some target =>
    rw [Frame.source_eq hf, hp target rfl]
    simp [bind, Except.bind, hk]

namespace Station

variable {s : Station} {pending : UInt32}

/-- A loopback message for the station itself or for a continuity group is turned round. -/
lemma dispatch_lbm (hf : f.octets = Frame.ethernetHeader own source tag ++
      (h.octets ++ (Octets.be32 received ++ rest)))
    (hh : h.Fits) (hk : h.opcode = Opcode.lbm.code) (hs : source.isGroup = false)
    (hd : own.isCfmGroup = true ∨ own = s.own) (now : Nat) : ∃ reply : Frame,
      s.dispatch f now = (s, .reply reply (.loopbackReplied received)) ∧
      reply.octets = Frame.ethernetHeader source s.own tag ++
        (({ h with opcode := Opcode.lbr.code } : CfmHeader).octets ++
          (Octets.be32 received ++ rest)) := by
  have ho : f.opcode = .ok .lbm := by
    rw [Frame.opcode_eq hf hh, hk]
    rfl
  obtain ⟨reply, hro, hr⟩ := Loopback.edited_answer s.own hf hh hk
  rw [if_neg (by rw [hs]; decide), if_pos (by simpa using hd)] at hr
  refine ⟨reply, ?_, hro⟩
  rw [s.dispatch_of_opcode (Frame.isCfm_eq hf) now ho]
  dsimp only
  unfold dispatchLbm
  rw [Frame.transactionId_eq hf, hr]

/-- A loopback reply that may answer the station adds one to the count if it has the id of the last
message, and changes nothing else. -/
lemma dispatch_lbr (hf : f.octets = Frame.ethernetHeader s.own source tag ++
      (h.octets ++ (Octets.be32 received ++ rest)))
    (hh : h.Fits) (hk : h.opcode = Opcode.lbr.code)
    (hp : ∀ target, s.config.remoteMac = some target → source = target)
    (ho : s.outstanding.loopback = some pending) (now : Nat) :
    s.dispatch f now = if pending = received
      then ({ s with outstanding.loopbackReplies := s.outstanding.loopbackReplies + 1 },
        .done (.loopbackMatched pending))
      else (s, .refused (.mismatch (.loopbackId pending received))) := by
  have hk' : f.opcode = .ok .lbr := by
    rw [Frame.opcode_eq hf hh, hk]
    rfl
  rw [s.dispatch_of_opcode (Frame.isCfm_eq hf) now hk']
  dsimp only
  unfold dispatchLbr
  rw [ho]
  dsimp only
  rw [Loopback.matchReply_eq hf hh hk hp]
  by_cases he : pending = received
  · -- The pending id was rewritten in the new state too.
    rw [if_pos he, if_pos he.symm, ← ho]
    rfl
  · rw [if_neg he, if_neg (Ne.symm he)]

end Station
end Reply

/-! ### The message -/

/-- Among the frames of a tick, only the one of the slot is a loopback message on the link. -/
theorem Schedule.Templates.lbm_of_offered {n : Node} {config : Config} {own : MacAddress}
    {tag : Option VlanTag} (ht : n.schedule.Templates config own tag) {now : Nat} {f lbm : Frame}
    (hf : f ∈ (n.tick now).2.offered) (hd : (Frame.decode f.onLink).1 = .ok (some lbm))
    (hk : lbm.opcode = .ok .lbm) : n.stampedLbm? = some f ∧ f ∈ (n.runSlot now).2.2 := by
  -- Any other frame of a tick has another kind, and keeps it on the link.
  have hother : ∀ {d s tag h payload}, f.octets = Frame.ethernetHeader d s tag ++
      (CfmHeader.octets h ++ payload) → h.Fits → h.opcode ≠ Opcode.lbm.code → False := by
    intro d s tag h payload ho hh hne
    obtain ⟨g, pad, hg, hgo⟩ := Frame.exists_received ho
    rw [hd] at hg
    cases hg
    rw [Frame.opcode_eq hgo hh] at hk
    exact hne (Opcode.eq_code_of_ofCode hk)
  rw [Node.offered_tick] at hf
  rcases List.mem_append.1 hf with hslot | hreport
  · rcases Node.mem_runSlot hslot with hccm | hlbm
    · obtain ⟨id, -, ho⟩ := ht.of_stampedCcm hccm
      exact (hother ho (Ccm.fits_ownHeader config)
        (show Opcode.ccm.code ≠ Opcode.lbm.code by decide)).elim
    · exact ⟨hlbm, hslot⟩
  · split at hreport
    · exact nomatch hreport
    · cases List.mem_singleton.1 hreport
      exact (hother ht.signalFail (RingAps.fits_ownHeader config)
        (show Opcode.raps.code ≠ Opcode.lbm.code by decide)).elim

namespace WiredNode

variable {h : WiredNode} {now : Nat} {xs : Octets} {verdict : Verdict}

lemma exists_offered_of_handed {ev : NodeEvent} (hx : (xs, verdict) ∈ (h.step ev).2.handed) :
    ∃ f ∈ (h.node.turn ev).2.offered, xs = f.onLink := by
  obtain ⟨f, hf, he⟩ := List.mem_map.1 (List.of_mem_zip hx).1
  exact ⟨f, hf, he.symm⟩

/-- The loopback message of a tick goes to the target with the next id, and its reply is waited for
from then on. -/
theorem lbm_of_handed {config : Config} {own peer : MacAddress} {lbm : Frame}
    (hs : h.InService config own) (hr : config.remoteMac = some peer)
    (hx : (xs, verdict) ∈ (h.step (.tick now)).2.handed)
    (hd : (Frame.decode xs).1 = .ok (some lbm)) (hk : lbm.opcode = .ok .lbm) :
    ∃ id tag rest, lbm.octets = Frame.ethernetHeader peer own tag ++
        ((Loopback.ownHeader config).octets ++ (Octets.be32 id ++ rest)) ∧
      (h.step (.tick now)).1.node.station.outstanding.loopback = some id := by
  obtain ⟨tag, -, ht, -⟩ := hs.templates
  obtain ⟨f, hf, rfl⟩ := exists_offered_of_handed hx
  obtain ⟨hstamped, hslot⟩ := ht.lbm_of_offered hf hd hk
  obtain ⟨target, hr', ho⟩ := ht.of_stampedLbm hstamped
  rw [hr] at hr'
  cases hr'
  obtain ⟨g, pad, hg, hgo⟩ := Frame.exists_received ho
  rw [hd] at hg
  cases hg
  rw [List.append_assoc] at hgo
  refine ⟨h.node.schedule.nextLbmId, tag, _, hgo, ?_⟩
  have hout : (h.node.tick now).1.station.outstanding =
      h.node.station.outstanding.awaitLoopback h.node.schedule.nextLbmId :=
    h.node.outstanding_runSlot now hstamped hslot
  exact congrArg Outstanding.loopback hout

/-- What becomes of a reply that reaches a node which waits for one. -/
lemma step_lbr {f : Frame} {own source : MacAddress} {tag : Option VlanTag} {hd : CfmHeader}
    {received pending : UInt32} {rest : Octets}
    (hf : f.octets = Frame.ethernetHeader own source tag ++
      (hd.octets ++ (Octets.be32 received ++ rest)))
    (hh : hd.Fits) (hk : hd.opcode = Opcode.lbr.code) (hown : h.node.station.own = own)
    (hp : ∀ target, h.node.station.config.remoteMac = some target → source = target)
    (ho : h.node.station.outstanding.loopback = some pending) :
    h.step (.receive f now) = if pending = received
      then ({ h with node.station.outstanding.loopbackReplies :=
          h.node.station.outstanding.loopbackReplies + 1 },
        ⟨.dispatched (.ok (.loopbackMatched received)), []⟩)
      else (h, ⟨.dispatched (.error (.mismatch (.loopbackId pending received))), []⟩) := by
  subst hown
  have hs := Station.dispatch_lbr hf hh hk hp ho now
  by_cases he : pending = received
  · subst he
    rw [if_pos rfl] at hs ⊢
    apply step_done
    unfold Node.dispatch
    rw [hs]
  · rw [if_neg he] at hs ⊢
    apply step_refused
    unfold Node.dispatch
    rw [hs]

end WiredNode

/-- Whenever a tick of a node puts a loopback message on the link, the target answers it with one
frame and says that it has replied to the id of the message. The node waits for this id from then
on. Whatever it does and receives afterwards, it waits for some id; when the answer arrives, it
reports a match of its id and counts one reply more, and nothing else changes, if it still waits for
that one, and otherwise it refuses the answer and stays as it was. -/
theorem loopback_exchange {config : Config} {own peer : MacAddress} (h b : WiredNode)
    (hs : h.InService config own) (hr : config.remoteMac = some peer)
    (hown : own.isGroup = false) (hb : b.node.station.own = peer) (hw : b.wire.Accepting)
    {now : Nat} {xs : Octets} {lbm : Frame} {id : UInt32}
    (hx : (xs, .ok ()) ∈ (h.step (.tick now)).2.handed)
    (hd : (Frame.decode xs).1 = .ok (some lbm)) (hk : lbm.opcode = .ok .lbm)
    (hid : lbm.transactionId = .ok id) (time : Nat) :
    (h.step (.tick now)).1.node.station.outstanding.loopback = some id ∧
    ∃ ys lbr, (b.step (.receive lbm time)).2 =
        ⟨.dispatched (.ok (.loopbackReplied id)), [(ys, .ok ())]⟩ ∧
      (Frame.decode ys).1 = .ok (some lbr) ∧
      ∀ evs later, let h' := (h.step (.tick now)).1.run evs
        ∃ pending, h'.node.station.outstanding.loopback = some pending ∧
          h'.step (.receive lbr later) = if pending = id
            then ({ h' with node.station.outstanding.loopbackReplies :=
                h'.node.station.outstanding.loopbackReplies + 1 },
              ⟨.dispatched (.ok (.loopbackMatched id)), []⟩)
            else (h', ⟨.dispatched (.error (.mismatch (.loopbackId pending id))), []⟩) := by
  obtain ⟨id', tag, rest, ho, hpending⟩ := WiredNode.lbm_of_handed hs hr hx hd hk
  have hid' : id' = id := by
    rw [Frame.transactionId_eq ho] at hid
    exact Except.ok.inj hid
  subst hid'
  obtain ⟨reply, hreply, hro⟩ := Station.dispatch_lbm ho (Loopback.fits_ownHeader config) rfl hown
    (.inr hb.symm) time
  obtain ⟨lbr, pad, hlbr, hlo⟩ := Frame.exists_received hro
  rw [List.append_assoc, hb] at hlo
  have hstep : b.node.dispatch lbm time = (b.node, .reply reply (.loopbackReplied id')) := by
    unfold Node.dispatch
    rw [hreply]
  refine ⟨hpending, reply.onLink, lbr, WiredNode.step_reply_accepting hw hstep, hlbr, ?_⟩
  intro evs later h'
  obtain ⟨pending, hp⟩ := WiredNode.exists_loopback_run hpending evs
  obtain ⟨-, -, -, hconfig, hown'⟩ := (hs.run (.tick now :: evs)).templates
  have hfits := Loopback.fits_ownHeader config
  refine ⟨pending, hp, WiredNode.step_lbr hlo ⟨hfits.level, hfits.version⟩ rfl hown' ?_ hp⟩
  intro target htarget
  rw [WiredNode.run_cons] at hconfig
  rw [hconfig, hr] at htarget
  exact Option.some.inj htarget

/-- The first of two stations asks the second one. If the answer comes at once it is the first reply
that is counted, and after the next slot, in which the station asks again, it is refused. -/
theorem loopback_exchange_pair :
    let h : WiredNode := ⟨Pair.node false, { verdict := fun _ _ => .ok () }⟩
    let b : WiredNode := ⟨Pair.node true, { verdict := fun _ _ => .ok () }⟩
    let asked := (h.step (.tick 0)).1
    let again := (asked.step (.tick 1000)).1
    (Pair.lbm.octets, .ok ()) ∈ (h.step (.tick 0)).2.handed ∧
    ∃ ys lbr, (b.step (.receive Pair.lbm 0)).2 =
        ⟨.dispatched (.ok (.loopbackReplied 7)), [(ys, .ok ())]⟩ ∧
      (Frame.decode ys).1 = .ok (some lbr) ∧
      asked.step (.receive lbr 0) =
        ({ asked with node.station.outstanding.loopbackReplies := 1 },
          ⟨.dispatched (.ok (.loopbackMatched 7)), []⟩) ∧
      again.step (.receive lbr 1000) =
        (again, ⟨.dispatched (.error (.mismatch (.loopbackId 8 7))), []⟩) := by
  intro h b asked again
  have hs : h.InService (Pair.config false) (Pair.address false) :=
    ⟨_, _, _, _, [], Pair.create_eq false, rfl⟩
  have hb : b.node.station.own = Pair.address true := by
    change (Pair.node true).station.own = _
    rw [Node.station_create (Pair.create_eq true)]
    rfl
  have hx : (Pair.lbm.octets, .ok ()) ∈ (h.step (.tick 0)).2.handed := by decide +kernel
  obtain ⟨hpending, ys, lbr, hreply, hd, hmatch⟩ := loopback_exchange h b hs rfl (by decide) hb
    (fun _ _ => rfl) hx (show (Frame.decode Pair.lbm.octets).1 = .ok (some Pair.lbm) by decide)
    (show Pair.lbm.opcode = .ok .lbm by decide)
    (show Pair.lbm.transactionId = .ok 7 by decide) 0
  have hagain : ((h.step (.tick 0)).1.run [.tick 1000]).node.station.outstanding.loopback =
      some 8 := by decide +kernel
  have hcount : asked.node.station.outstanding.loopbackReplies = 0 := by decide +kernel
  refine ⟨hx, ys, lbr, hreply, hd, ?_, ?_⟩
  · obtain ⟨pending, hp, hstep⟩ := hmatch [] 0
    cases hpending.symm.trans hp
    rwa [if_pos rfl, show (h.step (.tick 0)).1.run [] = asked from rfl, hcount,
      UInt64.zero_add] at hstep
  · obtain ⟨pending, hp, hstep⟩ := hmatch [.tick 1000] 1000
    rw [hagain] at hp
    cases hp
    exact hstep

end RingContinuity
