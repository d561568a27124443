import RingContinuity.Proofs.Network
import RingContinuity.Proofs.ReceivedFrames

/-!
# No reply storms

Whatever a station answers a frame with is a loopback or linktrace reply, also when the frame was
forged: the message that is turned round keeps its layout, and the common header of the reply stands
where the next station looks for it. Nobody answers a reply.
-/

namespace RingContinuity

namespace Opcode

/-- The kinds of frame that a station answers with, and that it never answers. -/
def IsReply (k : Opcode) : Prop := k = lbr ∨ k = ltr

end Opcode

namespace Station

variable {s : Station} {f g : Frame} {now : Nat} {what : Dispatched}

lemma isCfm_of_reply (h : (s.dispatch f now).2 = .reply g what) : f.isCfm = true := by
  by_contra hc
  unfold dispatch at h
  rw [if_pos (by simpa using hc)] at h
  exact nomatch h

/-- A reply has the layout of a message from the station, and it is no longer than the frame that it
answers or than the shortest frame. -/
theorem layout_of_reply (h : (s.dispatch f now).2 = .reply g what) :
    ∃ d tag payload, ∃ hd : CfmHeader, ∃ k : Opcode, hd.Fits ∧ k.IsReply ∧ hd.opcode = k.code ∧
      g.octets = Frame.ethernetHeader d s.own tag ++ (hd.octets ++ payload) ∧
      g.octets.length ≤ max minFrameLength f.octets.length := by
  have hj := s.justified_dispatch f now
  rw [h] at hj
  rcases hj with ⟨hk, hr⟩ | ⟨r, hr⟩
  · obtain ⟨d, src, tag, payload, hd, hfits, hcode, hf⟩ :=
      Frame.exists_layout_of_opcode (isCfm_of_reply h) hk
    have hg := Loopback.of_answer hf hfits hcode hr
    refine ⟨src, tag, payload, { hd with opcode := Opcode.lbr.code }, .lbr,
      ⟨hfits.level, hfits.version⟩, .inl rfl, rfl, hg, ?_⟩
    have hl : g.octets.length = f.octets.length := by
      rw [hg, hf]
      simp only [List.length_append, Frame.length_ethernetHeader, CfmHeader.length_octets]
    omega
  · have hg := Linktrace.of_buildReply hr
    refine ⟨r.origin, f.vlan?, Linktrace.replyPayload r .hit, Linktrace.replyHeader r, .ltr,
      Linktrace.fits_replyHeader r, .inr rfl, rfl, hg, ?_⟩
    have hl := Frame.length_ethernetHeader_le r.origin s.own f.vlan?
    rw [hg]
    unfold Linktrace.replyPayload minFrameLength
    simp only [List.length_append, CfmHeader.length_octets, CfmHeader.size, Octets.length_be32,
      List.length_singleton]
    omega

lemma offered?_dispatchLbr (s : Station) (f : Frame) : (s.dispatchLbr f).2.offered? = none := by
  unfold dispatchLbr
  split
  · rfl
  · split <;> rfl

lemma offered?_dispatchLtr (s : Station) (f : Frame) : (s.dispatchLtr f).2.offered? = none := by
  unfold dispatchLtr recordLtr
  split
  · rfl
  · split <;> rfl

/-- A reply may be counted, filed or refused; it is never answered. -/
theorem offered?_dispatch_reply {k : Opcode} (hk : k.IsReply) (ho : f.opcode = .ok k)
    (s : Station) (now : Nat) : (s.dispatch f now).2.offered? = none := by
  unfold dispatch
  rw [ho]
  split
  · rfl
  · rcases hk with rfl | rfl
    · exact s.offered?_dispatchLbr f
    · exact s.offered?_dispatchLtr f

end Station

lemma WiredNode.handed_receive (h : WiredNode) (f : Frame) (now : Nat) :
    (h.step (.receive f now)).2.handed = match (h.node.dispatch f now).2.offered? with
      | none => []
      | some g => [(g.onLink, (h.wire.offer now g).2)] := by
  cases hd : h.node.dispatch f now with
  | mk n reaction =>
    cases reaction with
    | refused cause => rw [step_refused hd]; rfl
    | done what => rw [step_done hd]; rfl
    | reply g what => rw [step_reply hd]; rfl

/-- A station hands at most one frame to its link when it receives one, whatever that is. The frame
is no longer than the received one or than the shortest frame, and no station whatsoever hands
anything to its link when it receives it. -/
theorem replies_unanswered (h : WiredNode) (f : Frame) (now : Nat) :
    (h.step (.receive f now)).2.handed.length ≤ 1 ∧
    ∀ xs verdict, (xs, verdict) ∈ (h.step (.receive f now)).2.handed →
      xs.length ≤ max minFrameLength f.octets.length ∧
      ∃ g, (Frame.decode xs).1 = .ok (some g) ∧
        ∀ (h' : WiredNode) (now' : Nat), (h'.step (.receive g now')).2.handed = [] := by
  rw [WiredNode.handed_receive]
  cases hr : (h.node.dispatch f now).2 with
  | refused cause => exact ⟨Nat.zero_le 1, nofun⟩
  | done what => exact ⟨Nat.zero_le 1, nofun⟩
  | reply reply what =>
    refine ⟨Nat.le_refl 1, fun xs verdict hm => ?_⟩
    cases List.mem_singleton.1 hm
    obtain ⟨d, tag, payload, hd, k, hfits, hk, hcode, hreply, hl⟩ := Station.layout_of_reply hr
    obtain ⟨g, hg, hgo⟩ := reply.decode_onLink
    refine ⟨?_, g, hg, fun h' now' => ?_⟩
    · have hon : reply.onLink.length = max minFrameLength reply.octets.length :=
        length_padded reply.octets
      omega
    · -- The zeros behind the reply only add to its payload.
      rw [hreply, List.append_assoc, List.append_assoc] at hgo
      have ho : g.opcode = .ok k := by
        rw [Frame.opcode_eq hgo hfits, hcode]
        exact Opcode.ofCode_code k
      have hnone : (h'.node.dispatch g now').2.offered? = none :=
        Station.offered?_dispatch_reply hk ho h'.node.station now'
      rw [WiredNode.handed_receive, hnone]

/-- The second of two stations answers the loopback message of the first one. -/
theorem replies_unanswered_pair :
    let h : WiredNode := ⟨Pair.node true, { verdict := fun _ _ => .ok () }⟩
    (Pair.lbr.octets, .ok ()) ∈ (h.step (.receive Pair.lbm 0)).2.handed ∧
    Pair.lbr.octets.length ≤ max minFrameLength Pair.lbm.octets.length ∧
      ∃ g, (Frame.decode Pair.lbr.octets).1 = .ok (some g) ∧
        ∀ (h' : WiredNode) (now' : Nat), (h'.step (.receive g now')).2.handed = [] := by
  intro h
  have hm : (Pair.lbr.octets, .ok ()) ∈ (h.step (.receive Pair.lbm 0)).2.handed := by
    decide +kernel
  exact ⟨hm, (replies_unanswered h Pair.lbm 0).2 _ _ hm⟩

end RingContinuity
