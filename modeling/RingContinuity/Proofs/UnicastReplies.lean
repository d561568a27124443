import RingContinuity.Proofs.ReplyStorms

/-!
# Whom a station answers

A station puts its own address on every answer. It sends the answer to a loopback message to the
source of that message, which has to be the address of one station. The answer to a linktrace
message goes to the origin that the message names, and nothing keeps that from being a group: one
forged message makes its target send to everybody.
-/

namespace RingContinuity

/-- Only a linktrace message is read as one. -/
lemma Linktrace.opcode_of_parseRequest {f : Frame} {r : Request} (h : parseRequest f = .ok r) :
    f.opcode = .ok .ltm := by
  unfold parseRequest at h
  obtain ⟨-, h⟩ := ok_of_guard h
  obtain ⟨header, hh, h⟩ := ok_of_bind h
  obtain ⟨hk, -⟩ := ok_of_guard h
  unfold Frame.opcode
  rw [hh, ← Opcode.ofCode_code .ltm, ← Classical.not_not.1 hk]
  rfl

/-- Messages from group addresses are not turned round. -/
lemma Loopback.exists_layout_of_answer {f reply : Frame} {own : MacAddress} (hc : f.isCfm = true)
    (hk : f.opcode = .ok .lbm) (hr : f.edited (answer own) = .ok reply) :
    ∃ source tag, ∃ hd : CfmHeader, ∃ payload, f.source = .ok source ∧ source.isGroup = false ∧
      reply.octets = Frame.ethernetHeader source own tag ++ (hd.octets ++ payload) := by
  obtain ⟨d, source, tag, payload, hd, hfits, hcode, hf⟩ := Frame.exists_layout_of_opcode hc hk
  obtain ⟨reply', -, he⟩ := edited_answer own hf hfits hcode
  have hgroup : source.isGroup = false := by
    cases hg : source.isGroup with
    | false => rfl
    | true =>
      rw [hr, hg, if_pos rfl] at he
      exact nomatch he
  exact ⟨source, tag, _, payload, Frame.source_eq hf, hgroup, of_answer hf hfits hcode hr⟩

namespace Station

variable {s : Station} {f g : Frame} {now : Nat} {what : Dispatched}

lemma of_dispatchLbm (h : s.dispatchLbm f = .reply g what) :
    f.edited (Loopback.answer s.own) = .ok g := by
  unfold dispatchLbm at h
  cases ht : f.transactionId with
  | error cause =>
    rw [ht] at h
    exact nomatch h
  | ok id =>
    rw [ht] at h
    dsimp only at h
    cases he : f.edited (Loopback.answer s.own) with
    | error cause =>
      rw [he] at h
      exact nomatch h
    | ok reply =>
      rw [he] at h
      cases h
      rfl

lemma of_dispatchLtm (h : s.dispatchLtm f = .reply g what) :
    ∃ r, Linktrace.parseRequest f = .ok r ∧ Linktrace.buildReply r s.own f.vlan? .hit = .ok g := by
  unfold dispatchLtm at h
  cases hp : Linktrace.parseRequest f with
  | error cause =>
    rw [hp] at h
    exact nomatch h
  | ok r =>
    rw [hp] at h
    dsimp only at h
    split at h
    · exact nomatch h
    · cases hb : Linktrace.buildReply r s.own f.vlan? .hit with
      | error cause =>
        rw [hb] at h
        exact nomatch h
      | ok reply =>
        rw [hb] at h
        cases h
        exact ⟨r, rfl, hb⟩

/-- The two kinds of answer, and whom they go to. -/
theorem addressee_of_reply (h : (s.dispatch f now).2 = .reply g what) :
    ∃ d tag, ∃ hd : CfmHeader, ∃ payload,
      g.octets = Frame.ethernetHeader d s.own tag ++ (hd.octets ++ payload) ∧
      ((f.opcode = .ok .lbm ∧ f.source = .ok d ∧ d.isGroup = false) ∨
        ∃ r, Linktrace.parseRequest f = .ok r ∧ r.origin = d) := by
  have hc := isCfm_of_reply h
  cases hk : f.opcode with
  | error cause =>
    unfold dispatch at h
    rw [hc, hk] at h
    exact nomatch h
  | ok k =>
    rw [s.dispatch_of_opcode hc now hk] at h
    cases k with
    | ccm =>
      unfold dispatchCcm at h
      dsimp only at h
      split at h <;> exact nomatch h
    | lbm =>
      obtain ⟨source, tag, hd, payload, hsource, hgroup, hg⟩ :=
        Loopback.exists_layout_of_answer hc hk (of_dispatchLbm h)
      exact ⟨source, tag, hd, payload, hg, .inl ⟨rfl, hsource, hgroup⟩⟩
    | lbr =>
      have hnone := s.offered?_dispatchLbr f
      rw [h] at hnone
      exact nomatch hnone
    | ltm =>
      obtain ⟨r, hp, hr⟩ := of_dispatchLtm h
      exact ⟨r.origin, f.vlan?, _, _, Linktrace.of_buildReply hr, .inr ⟨r, hp, rfl⟩⟩
    | ltr =>
      have hnone := s.offered?_dispatchLtr f
      rw [h] at hnone
      exact nomatch hnone
    | raps =>
      unfold dispatchRaps at h
      dsimp only at h
      split at h <;> exact nomatch h

end Station

/-- Whatever a station hands to its link when it receives a frame has the address of the station as
its source. It goes to a group exactly if the frame is a linktrace message whose origin is one. -/
theorem reply_to_group_iff (h : WiredNode) (f : Frame) (now : Nat) {xs : Octets} {verdict : Verdict}
    (hm : (xs, verdict) ∈ (h.step (.receive f now)).2.handed) :
    ∃ g d, (Frame.decode xs).1 = .ok (some g) ∧ g.source = .ok h.node.station.own ∧
      g.destination = .ok d ∧
      (d.isGroup = true ↔ ∃ r, Linktrace.parseRequest f = .ok r ∧ r.origin.isGroup = true) := by
  rw [WiredNode.handed_receive] at hm
  cases hr : (h.node.dispatch f now).2 with
  | refused cause =>
    rw [hr] at hm
    exact nomatch hm
  | done what =>
    rw [hr] at hm
    exact nomatch hm
  | reply reply what =>
    rw [hr] at hm
    cases List.mem_singleton.1 hm
    obtain ⟨d, tag, hd, payload, hreply, hto⟩ := Station.addressee_of_reply hr
    obtain ⟨g, pad, hg, hgo⟩ := Frame.exists_received hreply
    refine ⟨g, d, hg, Frame.source_eq hgo, Frame.destination_eq hgo, ?_⟩
    rcases hto with ⟨hk, -, hgroup⟩ | ⟨r, hp, rfl⟩
    · -- A loopback message is answered, so neither side of the equivalence holds.
      refine ⟨fun hd => ?_, fun ⟨r, hp, _⟩ => ?_⟩
      · rw [hgroup] at hd
        exact nomatch hd
      · rw [Linktrace.opcode_of_parseRequest hp] at hk
        exact nomatch hk
    · refine ⟨fun hd => ⟨r, hp, hd⟩, fun ⟨r', hp', hd⟩ => ?_⟩
      rw [hp] at hp'
      cases hp'
      exact hd

namespace Pair

/-- The second of two stations is asked for the path to itself, by a message that names the group of
all stations as its origin. -/
def forgedLtm : Frame where
  octets := [1, 0x80, 0xC2, 0, 0, 0x38, 2, 0, 0, 0, 0, 1, 0x89, 0x02, 0, 5, 0x80, 17, 0, 0, 0, 7, 2,
    0xFF, 0xFF, 0xFF, 0xFF, 0xFF, 0xFF, 2, 0, 0, 0, 0, 2, 0]
  kind := none
  length_le := by decide

/-- What it sends, filled up to the shortest frame length. -/
def stormLtr : Frame where
  octets := [0xFF, 0xFF, 0xFF, 0xFF, 0xFF, 0xFF, 2, 0, 0, 0, 0, 2, 0x89, 0x02, 0, 4, 0x20, 6, 0, 0,
    0, 7, 1, 1, 0] ++ List.replicate 35 0
  kind := none
  length_le := by decide

end Pair

/-- The answer to a forged message goes to all stations, although the station that answers is valid
and has an address of its own. -/
theorem reply_to_all_stations :
    let h : WiredNode := ⟨Pair.node true, { verdict := fun _ _ => .ok () }⟩
    (Pair.config true).validate = .ok () ∧ h.node.station.own.isGroup = false ∧
    (Pair.stormLtr.octets, .ok ()) ∈ (h.step (.receive Pair.forgedLtm 0)).2.handed ∧
    (Frame.decode Pair.stormLtr.octets).1 = .ok (some Pair.stormLtr) ∧
    Pair.stormLtr.destination = .ok ⟨0xFF, 0xFF, 0xFF, 0xFF, 0xFF, 0xFF⟩ ∧
    (⟨0xFF, 0xFF, 0xFF, 0xFF, 0xFF, 0xFF⟩ : MacAddress).isGroup = true := by
  decide +kernel

/-- The second of two stations answers the loopback message of the first one, which is no group. -/
theorem reply_to_group_iff_pair :
    let h : WiredNode := ⟨Pair.node true, { verdict := fun _ _ => .ok () }⟩
    (Pair.lbr.octets, .ok ()) ∈ (h.step (.receive Pair.lbm 0)).2.handed ∧
    ∃ g d, (Frame.decode Pair.lbr.octets).1 = .ok (some g) ∧
      g.source = .ok h.node.station.own ∧ g.destination = .ok d ∧ d.isGroup = false := by
  intro h
  have hm : (Pair.lbr.octets, .ok ()) ∈ (h.step (.receive Pair.lbm 0)).2.handed := by
    decide +kernel
  obtain ⟨g, d, hg, hsource, hd, hiff⟩ := reply_to_group_iff h Pair.lbm 0 hm
  refine ⟨hm, g, d, hg, hsource, hd, ?_⟩
  cases hgroup : d.isGroup with
  | false => rfl
  | true =>
    obtain ⟨r, hp, -⟩ := hiff.1 hgroup
    have hk := Linktrace.opcode_of_parseRequest hp
    exact absurd hk (by decide)

end RingContinuity
