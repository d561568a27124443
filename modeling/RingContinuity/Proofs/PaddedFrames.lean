import RingContinuity.Proofs.Network
import RingContinuity.Proofs.TransparentChanges

/-!
# Padded frames

Zeros behind a frame are a transparent change, so that the zeros with which a link fills up short
frames are never taken for content: the records end before them, a short ring protection message
reads as if they were there already, and a reply is filled up again as the message was.
-/

namespace RingContinuity

namespace Frame

/-- The second frame is the first one, of length `l`, with `n` zeros behind it. -/
def Padded (l n : Nat) (f g : Frame) : Prop :=
  f.octets.length = l ∧ g.octets = f.octets ++ List.replicate n 0

namespace Padded

variable {l n : Nat} {f g : Frame}

lemma length_eq (h : Padded l n f g) : g.octets.length = f.octets.length + n := by
  rw [h.2, List.length_append, List.length_replicate]

/-- A frame that is filled up already is put on the link as it is. -/
lemma onLink_eq (h : Padded l (minFrameLength - l) f g) : g.onLink = f.onLink := by
  have hz : minFrameLength - g.octets.length = 0 := by
    rw [h.length_eq, h.1]
    omega
  unfold onLink padded
  rw [hz, List.replicate_zero, List.append_nil, h.2, h.1]

/-- The type field decides whether there is a tag, so it has to be there. -/
lemma isTagged_eq (h : Padded l n f g) (hl : 14 ≤ f.octets.length) : g.isTagged = f.isTagged := by
  have htypes : (g.octets.drop 12).take 2 = (f.octets.drop 12).take 2 := by
    rw [h.2, List.drop_append_of_le_length (by omega),
      List.take_append_of_le_length (by rw [List.length_drop]; omega)]
  rw [Bool.eq_iff_iff, isTagged_iff, isTagged_iff, htypes]

/-- Reading behind the type field, at an offset that the tag test tells. -/
lemma behindType {α β : Type} {R : α → β → Prop} (h : Padded l n f g) {i j : Nat}
    {name : FrameField} {read : i ≤ f.octets.length → α} {read' : j ≤ g.octets.length → β}
    (hi : 14 ≤ i) (hij : g.isTagged = f.isTagged → j = i)
    (hr : ∀ hf hg, j = i → R (read hf) (read' hg)) :
    Concur False R (f.need i name read) (g.need j name read') := by
  have hl := h.length_eq
  have hj : i ≤ f.octets.length → j = i := fun hf => hij (h.isTagged_eq (by omega))
  refine .need (fun hf => ?_) False.elim fun hf hg => hr hf hg (hj hf)
  rw [hj hf]
  omega

lemma address (h : Padded l n f g) (i : Nat) (name : FrameField) :
    Concur False Eq (f.need (i + 6) name fun hf => MacAddress.readAt f.octets i hf)
      (g.need (i + 6) name fun hg => MacAddress.readAt g.octets i hg) := by
  have hl := h.length_eq
  refine .need (fun _ => by omega) False.elim fun hf _ => ?_
  simp only [h.2]
  exact (MacAddress.readAt_append hf _ _).symm

lemma header (h : Padded l n f g) : Concur False Eq f.header g.header := by
  refine h.behindType (Nat.le_add_right_of_le f.le_cfmOffset)
    (fun ht => by rw [cfmOffset_congr ht]) fun hf hg hij => ?_
  have ho : g.cfmOffset = f.cfmOffset := Nat.add_right_cancel hij
  simp only [h.2, ho]
  exact (CfmHeader.readAt_append hf _ _).symm

lemma dropped (h : Padded l n f g) {i j : Nat} (name : FrameField) (hi : 14 ≤ i)
    (hij : g.isTagged = f.isTagged → j = i) :
    Concur False (Continues False) (f.need i name fun _ => f.octets.drop i)
      (g.need j name fun _ => g.octets.drop j) := by
  refine h.behindType hi hij fun hf _ he => ⟨n, ?_, False.elim⟩
  rw [he, h.2, List.drop_append_of_le_length hf]

/-- Overwriting a field that lies inside the frame leaves the zeros behind it alone. -/
lemma written (h : Padded l n f g) {i : Nat} {field : Octets}
    (hi : i + field.length ≤ f.octets.length) {f' g' : Frame}
    (hf' : f'.octets = Octets.overwrite f.octets i field)
    (hg' : g'.octets = Octets.overwrite g.octets i field) : Padded l n f' g' := by
  refine ⟨?_, ?_⟩
  · rw [hf', Octets.length_overwrite hi, h.1]
  · rw [hg', hf', h.2, Octets.overwrite_append_left hi]

lemma writeAt (h : Padded l n f g) (i : Nat) (field : Octets) (name : FrameField) :
    Concur False (Padded l n) (f.edited (writeAt i field name))
      (g.edited (writeAt i field name)) := by
  have hl := h.length_eq
  exact .writeAt (fun _ => by omega) False.elim fun hi _ _ => h.written hi

end Padded

theorem transparent_padded (l n : Nat) : Transparent False (Padded l n) where
  destination h := h.address 0 _
  source h := h.address 6 _
  etherType {f g} h := by
    unfold etherType word16At
    refine h.behindType (by split <;> omega) (fun ht => by rw [ht]) fun hf hg hij => ?_
    have ho := Nat.add_right_cancel hij
    simp only [h.2, ho]
    exact (Octets.read16_append hf _ _).symm
  header h := h.header
  payload h := h.dropped _ (le_payloadOffset _) payloadOffset_congr
  transactionId {f g} h := by
    unfold transactionId word32At
    refine h.behindType (Nat.le_add_right_of_le (le_payloadOffset f))
      (fun ht => by rw [payloadOffset_congr ht]) fun hf hg hij => ?_
    have ho := Nat.add_right_cancel hij
    simp only [h.2, ho]
    exact (Octets.read32_append hf _ _).symm
  tlvOctets {f g} h := by
    refine h.header.bind ?_
    rintro header _ rfl
    exact h.dropped _ (Nat.le_add_right_of_le (le_payloadOffset f))
      fun ht => by rw [payloadOffset_congr ht]
  setDestination h m := h.writeAt 0 m.octets _
  setSource h m := h.writeAt 6 m.octets _
  setOpcode {f g} h k := by
    unfold setOpcode
    rw [edited_get, edited_get, edited_bind, edited_bind]
    refine Concur.bind (R := Padded l n) ?_ fun f' g' h' => .ok h'
    have hl := h.length_eq
    have ho : f.cfmOffset + 1 + 1 ≤ f.octets.length → g.cfmOffset = f.cfmOffset := fun hle =>
      cfmOffset_congr (h.isTagged_eq (by have := f.le_cfmOffset; omega))
    refine .writeAt (fun hle => ?_) False.elim fun hle f' g' hf' hg' => h.written hle hf' ?_
    · rw [ho hle]
      exact Nat.le_trans hle (by omega)
    · rw [← ho hle]
      exact hg'

/-! ### Continuity checks -/

namespace Padded

variable {l n : Nat} {f g : Frame}

lemma vlan?_eq (h : Padded l n f g) (hc : f.isCfm = true) : g.vlan? = f.vlan? := by
  obtain ⟨d, s, tag, hf⟩ := exists_ethernetHeader hc
  have hg : g.octets = ethernetHeader d s tag ++
      (f.octets.drop f.cfmOffset ++ List.replicate n 0) := by
    rw [h.2, ← List.append_assoc, ← hf]
  rw [Frame.vlan?_eq hf, Frame.vlan?_eq hg]

/-- The VLAN of a frame that is too short for its tag is not its VLAN with zeros behind it, but then
there is no continuity check in it. -/
theorem receive (h : Padded l n f g) {config : Config} {c : Ccm}
    (hc : Ccm.receive f config = .ok c) : Ccm.receive g config = .ok c := by
  have hcfm : f.isCfm = true := by
    obtain ⟨hnot, -⟩ := ok_of_guard (Ccm.of_receive hc).1
    simpa using hnot
  have hvlan : g.vlanId = f.vlanId := by
    unfold vlanId
    rw [h.vlan?_eq hcfm]
  have hconcur : Concur False Eq (Ccm.receive f config) (Ccm.receive g config) := by
    unfold Ccm.receive
    rw [hvlan]
    refine .guard_same (((transparent_padded l n).ccm h).bind ?_)
    rintro ccm _ rfl
    exact .guard_same (.ok rfl)
  exact hconcur.eq_ok hc

end Padded
end Frame

/-! ### Dispatching -/

namespace Reaction

/-- The same is done, and the same goes on the link. -/
inductive OnLink : Reaction → Reaction → Prop
  | done (what : Dispatched) : OnLink (.done what) (.done what)
  | reply {f g : Frame} (h : g.onLink = f.onLink) (what : Dispatched) :
    OnLink (.reply f what) (.reply g what)

end Reaction

namespace Station

/-- Unless the first frame is refused, the station ends up the same and answers the same. -/
def Keeps (x y : Station × Reaction) : Prop :=
  (∀ cause, x.2 ≠ .refused cause) → y.1 = x.1 ∧ x.2.OnLink y.2

lemma Keeps.refl (x : Station × Reaction) : Keeps x x := by
  intro hx
  refine ⟨rfl, ?_⟩
  cases hr : x.2 with
  | refused cause => exact absurd hr (hx cause)
  | done what => exact .done what
  | reply f what => exact .reply rfl what

lemma Keeps.refused {s : Station} {cause : Error} {y : Station × Reaction} :
    Keeps (s, .refused cause) y := fun hx => absurd rfl (hx cause)

section Dispatch

variable {n : Nat} {f g : Frame} (s : Station) (now : Nat)

lemma dispatchCcm_padded {l : Nat} (h : Frame.Padded l n f g) :
    Keeps (s.dispatchCcm f now) (s.dispatchCcm g now) := by
  unfold dispatchCcm MepTable.apply
  cases hc : Ccm.receive f s.config with
  | error cause => exact .refused
  | ok c =>
    rw [h.receive hc]
    exact .refl _

/-- A reply is as long as the message, so that the link fills it up by as many zeros. -/
lemma dispatchLbm_padded {l : Nat} (h : Frame.Padded l (minFrameLength - l) f g) :
    Keeps (s, s.dispatchLbm f) (s, s.dispatchLbm g) := by
  have t := Frame.transparent_padded l (minFrameLength - l)
  unfold dispatchLbm
  cases hid : f.transactionId with
  | error cause => exact .refused
  | ok id =>
    rw [(t.transactionId h).eq_ok hid]
    dsimp only
    have hanswer := t.answer h s.own
    cases hr : f.edited (Loopback.answer s.own) with
    | error cause => exact .refused
    | ok reply =>
      rw [hr] at hanswer
      obtain ⟨reply', hr', hp⟩ := hanswer.exists_ok
      rw [hr']
      exact fun _ => ⟨rfl, .reply hp.onLink_eq _⟩

lemma dispatchLbr_padded {l : Nat} (h : Frame.Padded l n f g) :
    Keeps (s.dispatchLbr f) (s.dispatchLbr g) := by
  have t := Frame.transparent_padded l n
  unfold dispatchLbr
  cases s.outstanding.loopback with
  | none => exact .refl _
  | some id =>
    dsimp only
    cases hm : Loopback.matchReply f id s.own s.config.remoteMac with
    | error cause => exact .refused
    | ok _ =>
      rw [(t.matchLbr h ..).eq_ok hm]
      exact .refl _

lemma dispatchLtm_padded {l : Nat} (h : Frame.Padded l n f g) (hc : f.isCfm = true) :
    Keeps (s, s.dispatchLtm f) (s, s.dispatchLtm g) := by
  have t := Frame.transparent_padded l n
  unfold dispatchLtm
  rw [h.vlan?_eq hc]
  cases hp : Linktrace.parseRequest f with
  | error cause => exact .refused
  | ok r =>
    rw [(t.request h).eq_ok hp]
    exact .refl _

lemma dispatchLtr_padded {l : Nat} (h : Frame.Padded l n f g) :
    Keeps (s.dispatchLtr f) (s.dispatchLtr g) := by
  have t := Frame.transparent_padded l n
  unfold dispatchLtr recordLtr
  cases s.outstanding.linktraceId? with
  | none => exact .refl _
  | some id =>
    dsimp only
    cases hm : Linktrace.matchReply f s.own id with
    | error cause => exact .refused
    | ok reply =>
      rw [(t.matchLtr h ..).eq_ok hm]
      exact .refl _

lemma dispatchRaps_padded {l : Nat} (h : Frame.Padded l n f g) :
    Keeps (s, dispatchRaps f) (s, dispatchRaps g) := by
  unfold dispatchRaps
  cases hp : RingAps.parse f with
  | error cause => exact .refused
  | ok message =>
    rw [((Frame.transparent_padded l n).ringAps h).eq_ok hp]
    exact .refl _

theorem dispatch_padded {l : Nat} (h : Frame.Padded l (minFrameLength - l) f g) :
    Keeps (s.dispatch f now) (s.dispatch g now) := by
  have t := Frame.transparent_padded l (minFrameLength - l)
  by_cases hc : f.isCfm = true
  · have hc' := t.isCfm h hc
    cases hk : f.opcode with
    | error cause =>
      unfold dispatch
      rw [hc, hk]
      exact .refused
    | ok k =>
      rw [dispatch_of_opcode s hc now hk, dispatch_of_opcode s hc' now ((t.opcode h).eq_ok hk)]
      cases k with
      | ccm => exact s.dispatchCcm_padded now h
      | lbm => exact s.dispatchLbm_padded h
      | lbr => exact s.dispatchLbr_padded h
      | ltm => exact s.dispatchLtm_padded h hc
      | ltr => exact s.dispatchLtr_padded h
      | raps => exact s.dispatchRaps_padded h
  · unfold dispatch
    rw [if_pos (by simpa using hc)]
    exact .refused

end Dispatch
end Station

namespace WiredNode

variable {h : WiredNode} {f g : Frame} {now : Nat}

lemma step_congr (hn : (h.node.dispatch g now).1 = (h.node.dispatch f now).1)
    (hr : (h.node.dispatch f now).2.OnLink (h.node.dispatch g now).2) :
    h.step (.receive g now) = h.step (.receive f now) := by
  cases hf : h.node.dispatch f now with
  | mk n r =>
  cases hg : h.node.dispatch g now with
  | mk n' r' =>
  rw [hf, hg] at hn hr
  cases hn
  cases hr with
  | done what => rw [step_done hf, step_done hg]
  | @reply reply reply' he what =>
    have ho : h.wire.offer now reply' = h.wire.offer now reply := by
      unfold Wire.offer
      rw [he]
    rw [step_reply hf, step_reply hg, ho, he]

theorem step_onLink {what : Dispatched} (hg : g.octets = f.onLink)
    (hd : (h.step (.receive f now)).2.answer = .dispatched (.ok what)) :
    h.step (.receive g now) = h.step (.receive f now) := by
  have hp : Frame.Padded f.octets.length (minFrameLength - f.octets.length) f g := ⟨rfl, hg⟩
  have hkeeps := h.node.station.dispatch_padded now hp
  have hnot : ∀ cause, (h.node.station.dispatch f now).2 ≠ .refused cause := by
    intro cause hr
    have hn : h.node.dispatch f now = ((h.node.dispatch f now).1, .refused cause) :=
      Prod.ext rfl hr
    rw [step_refused hn] at hd
    exact nomatch hd
  obtain ⟨hs, hr⟩ := hkeeps hnot
  exact step_congr (congrArg (fun s => { h.node with station := s }) hs) hr

end WiredNode

/-! ### Padding -/

/-- What one of the readers makes of the first frame, all of them make of the second. The answer to
a loopback message has as many zeros behind it as the message. -/
structure Frame.ReadBehind (n : Nat) (f g : Frame) : Prop where
  ccm : ∀ c, Ccm.parse f = .ok c → Ccm.parse g = .ok c
  received : ∀ config c, Ccm.receive f config = .ok c → Ccm.receive g config = .ok c
  request : ∀ r, Linktrace.parseRequest f = .ok r → Linktrace.parseRequest g = .ok r
  loopbackReply : ∀ id own peer,
    Loopback.matchReply f id own peer = .ok () → Loopback.matchReply g id own peer = .ok ()
  linktraceReply : ∀ own id reply,
    Linktrace.matchReply f own id = .ok reply → Linktrace.matchReply g own id = .ok reply
  ringAps : ∀ p, RingAps.parse f = .ok p → RingAps.parse g = .ok p
  answer : ∀ own reply, f.edited (Loopback.answer own) = .ok reply →
    ∃ reply', g.edited (Loopback.answer own) = .ok reply' ∧
      reply'.octets = reply.octets ++ List.replicate n 0

theorem Frame.Padded.readBehind {l n : Nat} {f g : Frame} (h : Padded l n f g) :
    ReadBehind n f g where
  ccm c := ((transparent_padded l n).ccm h).eq_ok
  received config c := h.receive
  request r := ((transparent_padded l n).request h).eq_ok
  loopbackReply id own peer := ((transparent_padded l n).matchLbr h id own peer).eq_ok
  linktraceReply own id reply := ((transparent_padded l n).matchLtr h own id).eq_ok
  ringAps p := ((transparent_padded l n).ringAps h).eq_ok
  answer own reply hreply := by
    have hanswer := (transparent_padded l n).answer h own
    rw [hreply] at hanswer
    obtain ⟨reply', hr', hp⟩ := hanswer.exists_ok
    exact ⟨reply', hr', hp.2⟩

/-- The zeros behind a frame are its only change on the link. Whatever is read from a frame is read
from it with zeros behind it, and a node that can make something of a frame does the same, puts the
same on its link and ends up in the same state when the link has filled the frame up. -/
theorem padding_transparent (f : Frame) :
    (∃ g, Frame.decode (f.encode []) = (.ok (some g), []) ∧
      g.octets = f.octets ++ List.replicate (minFrameLength - f.octets.length) 0) ∧
    (∀ n (g : Frame), g.octets = f.octets ++ List.replicate n 0 → f.ReadBehind n g) ∧
    ∀ (h : WiredNode) (now : Nat) (g : Frame) (what : Dispatched),
      g.octets = f.octets ++ List.replicate (minFrameLength - f.octets.length) 0 →
      (h.step (.receive f now)).2.answer = .dispatched (.ok what) →
      h.step (.receive g now) = h.step (.receive f now) := by
  obtain ⟨g, hg, ho⟩ := f.decode_onLink
  refine ⟨⟨g, Prod.ext hg ?_, ho⟩, ?_, ?_⟩
  · unfold Frame.decode
    split <;> rfl
  · intro n g hg
    exact Frame.Padded.readBehind ⟨rfl, hg⟩
  · intro h now g what hg hd
    exact WiredNode.step_onLink hg hd

/-- The second of two stations answers a loopback message of 26 octets. -/
theorem padding_transparent_lbm :
    let h : WiredNode := ⟨Pair.node true, { verdict := fun _ _ => .ok () }⟩
    ∃ f : Frame, f.octets = Pair.lbm.octets.take 26 ∧ Pair.lbm.octets = f.onLink ∧
      (h.step (.receive f 0)).2.answer = .dispatched (.ok (.loopbackReplied 7)) ∧
      (h.step (.receive f 0)).2.handed = [(Pair.lbr.octets, .ok ())] ∧
      h.step (.receive Pair.lbm 0) = h.step (.receive f 0) := by
  intro h
  let f : Frame := ⟨Pair.lbm.octets.take 26, none, by decide⟩
  have hg : Pair.lbm.octets = f.onLink := by rfl
  have ho : (h.node.dispatch f 0).2.outcome
      ((h.wire.offerAll 0 (h.node.dispatch f 0).2.offered?.toList).2.headD (.ok ())) =
        .ok (.loopbackReplied 7) := by decide +kernel
  have hd : (h.step (.receive f 0)).2.answer = .dispatched (.ok (.loopbackReplied 7)) :=
    congrArg Answer.dispatched ho
  have hh : (h.step (.receive f 0)).2.handed = [(Pair.lbr.octets, .ok ())] := by decide +kernel
  obtain ⟨-, -, hstep⟩ := padding_transparent f
  exact ⟨f, rfl, hg, hd, hh, hstep h 0 Pair.lbm _ hg hd⟩

end RingContinuity
