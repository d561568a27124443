import RingContinuity.Proofs.LoopbackExchange

/-!
# A linktrace exchange

From the request of an operator, over the reply of the target, to the station that files the reply
under the request, or refuses it because another request has replaced that one. The reply is a new
frame, into which the target copies what it read in the message.
-/

namespace RingContinuity

/-- The tag control information of a frame, if it has a tag. -/
def Frame.tci? (f : Frame) : Option UInt16 :=
  if f.isTagged then (f.word16At 14).toOption else none

lemma Frame.tci?_eq {f : Frame} {d s : MacAddress} {tag : Option VlanTag} {rest : Octets}
    (hf : f.octets = ethernetHeader d s tag ++ rest) : f.tci? = tag.map VlanTag.tci := by
  have hl := le_length hf
  unfold tci?
  rw [isTagged_eq hf]
  cases tag with
  | none => rfl
  | some t =>
    have h16 : 14 + 2 ≤ f.octets.length := by
      simp only [Option.isSome_some, if_true] at hl
      omega
    have hr : Octets.read16 f.octets 14 h16 = t.tci := by
      simp only [hf]
      exact Octets.word16_be16 t.tci
    unfold word16At
    rw [need_of_le h16, hr]
    rfl

/-! ### Reading the two messages -/

section Messages

variable {f : Frame} {d source : MacAddress} {tag : Option VlanTag} {h : CfmHeader} {pad : Octets}

namespace Linktrace

theorem parseRequest_eq {origin target : MacAddress} {id : UInt32} {ttl : UInt8}
    (hf : f.octets = Frame.ethernetHeader d source tag ++
      (h.octets ++ (requestPayload origin target id ttl ++ pad)))
    (hh : h.Fits) (hk : h.opcode = Opcode.ltm.code) :
    parseRequest f = .ok ⟨h.level, id, ttl, origin, target⟩ := by
  have hlen : 17 ≤ (requestPayload origin target id ttl ++ pad).length := by
    unfold requestPayload
    simp only [List.length_append, Octets.length_be32, List.length_singleton,
      MacAddress.length_octets]
    omega
  have hid : Octets.read32 (requestPayload origin target id ttl ++ pad) 0 (by omega) = id :=
    Octets.word32_be32 id
  unfold parseRequest
  rw [Frame.isCfm_eq hf, Frame.header_eq hf hh, Frame.payload_eq hf]
  simp only [bind, Except.bind, Bool.not_true, Bool.false_eq_true, if_false, ne_eq, not_true, hk]
  rw [dif_pos hlen, hid]
  rfl

/-- A linktrace reply to the station is matched by its id alone. -/
theorem matchReply_eq {own : MacAddress} {r : Request}
    (hf : f.octets = Frame.ethernetHeader own source tag ++
      (h.octets ++ (replyPayload r .hit ++ pad)))
    (hh : h.Fits) (hk : h.opcode = Opcode.ltr.code) (id : UInt32) :
    matchReply f own id = if r.id = id then .ok ⟨decrement r.ttl, true⟩
      else .error (.mismatch (.linktraceId r.id id)) := by
  have hlen : 6 ≤ (replyPayload r .hit ++ pad).length := by
    unfold replyPayload
    simp only [List.length_append, Octets.length_be32, List.length_singleton]
    omega
  have hid : Octets.read32 (replyPayload r .hit ++ pad) 0 (by omega) = r.id :=
    Octets.word32_be32 r.id
  unfold matchReply
  rw [Frame.isCfm_eq hf, Frame.destination_eq hf, Frame.header_eq hf hh, Frame.payload_eq hf]
  simp only [bind, Except.bind, Bool.not_true, Bool.false_eq_true, if_false, ne_eq, not_true, hk]
  rw [dif_pos hlen, hid]
  by_cases hr : r.id = id
  · rw [if_pos hr, if_neg (not_not_intro hr)]
    rfl
  · rw [if_neg hr, if_pos hr]
    rfl

end Linktrace

namespace Station

variable (s : Station)

/-- A station answers a linktrace message that names it and has hops left, and no other. -/
lemma dispatch_ltm {origin target : MacAddress} {id : UInt32} {ttl : UInt8}
    (hf : f.octets = Frame.ethernetHeader d source tag ++
      (h.octets ++ (Linktrace.requestPayload origin target id ttl ++ pad)))
    (hh : h.Fits) (hk : h.opcode = Opcode.ltm.code) (now : Nat) : ∃ reply : Frame,
      reply.octets = Frame.ethernetHeader origin s.own (tag.map fun t => .ofTci t.tci) ++
        ((Linktrace.replyHeader ⟨h.level, id, ttl, origin, target⟩).octets ++
          Linktrace.replyPayload ⟨h.level, id, ttl, origin, target⟩ .hit) ∧
      s.dispatch f now = (s, if target ≠ s.own ∨ ttl = 0 then .done .ignored
        else .reply reply (.linktraceReplied id)) := by
  have hk' : f.opcode = .ok .ltm := by
    rw [Frame.opcode_eq hf hh, hk]
    rfl
  obtain ⟨reply, hr, ho⟩ := Linktrace.buildReply_ok s.own ⟨h.level, id, ttl, origin, target⟩
    (tag.map fun t => .ofTci t.tci) .hit
  refine ⟨reply, ho, ?_⟩
  rw [s.dispatch_of_opcode (Frame.isCfm_eq hf) now hk']
  dsimp only
  unfold dispatchLtm
  rw [Linktrace.parseRequest_eq hf hh hk, Frame.vlan?_eq hf]
  dsimp only
  rw [hr]

/-- A linktrace reply to the station is filed if it has the id of its last message. -/
lemma dispatch_ltr {r : Linktrace.Request} {p : PendingLinktrace}
    (hf : f.octets = Frame.ethernetHeader s.own source tag ++
      (h.octets ++ (Linktrace.replyPayload r .hit ++ pad)))
    (hh : h.Fits) (hk : h.opcode = Opcode.ltr.code) (ho : s.outstanding.linktrace = some p)
    (now : Nat) :
    s.dispatch f now = if p.id = r.id
      then ({ s with outstanding :=
          s.outstanding.recordLinktraceReply r.id ⟨Linktrace.decrement r.ttl, true⟩ },
        .done (.linktraceMatched r.id ⟨Linktrace.decrement r.ttl, true⟩))
      else (s, .refused (.mismatch (.linktraceId r.id p.id))) := by
  have hk' : f.opcode = .ok .ltr := by
    rw [Frame.opcode_eq hf hh, hk]
    rfl
  have hp : s.outstanding.linktraceId? = some p.id := by
    unfold Outstanding.linktraceId?
    rw [ho]
    rfl
  rw [s.dispatch_of_opcode (Frame.isCfm_eq hf) now hk']
  dsimp only
  unfold dispatchLtr recordLtr
  rw [hp]
  dsimp only
  rw [Linktrace.matchReply_eq hf hh hk]
  by_cases he : p.id = r.id
  · rw [if_pos he, if_pos he.symm, he]
  · rw [if_neg he, if_neg (Ne.symm he)]

end Station
end Messages

/-! ### Asking -/

/-- A linktrace message that can be built is offered to the link and waited for. -/
lemma Node.turn_linktrace {n : Node} {target : MacAddress} {ttl : Option UInt8} {f : Frame}
    (hf : Linktrace.buildRequest n.station.config n.station.own target n.station.ids.draw.1
      (ttl.getD Linktrace.defaultTtl) = .ok f) (now : Nat) :
    (n.turn (.linktrace target ttl now)).1.station.outstanding.linktrace =
        some ⟨n.station.ids.draw.1, target, []⟩ ∧
      (n.turn (.linktrace target ttl now)).2 = ⟨[f], fun verdicts =>
        .traced ((verdicts.headD (.ok ())).map fun _ => n.station.ids.draw.1)⟩ := by
  unfold turn linktrace Station.linktrace
  dsimp only [Station.drawId]
  rw [hf]
  exact ⟨rfl, rfl⟩

namespace WiredNode

variable {h : WiredNode} {own : MacAddress} {now : Nat}

theorem step_linktrace {config : Config} {tag : Option VlanTag} (hs : h.InService config own)
    (htag : config.tag = .ok tag) (hw : h.wire.Accepting) (target : MacAddress)
    (ttl : Option UInt8) (now : Nat) :
    ∃ id, ∃ f : Frame,
      f.octets = Frame.ethernetHeader (MacAddress.linktraceGroup config.level) own tag ++
        ((Linktrace.requestHeader config).octets ++
          Linktrace.requestPayload own target id (ttl.getD Linktrace.defaultTtl)) ∧
      (h.step (.linktrace target ttl now)).2 = ⟨.traced (.ok id), [(f.onLink, .ok ())]⟩ ∧
      (h.step (.linktrace target ttl now)).1.node.station.outstanding.linktrace =
        some ⟨id, target, []⟩ := by
  obtain ⟨-, -, -, hconfig, hown⟩ := hs.templates
  let id := h.node.station.ids.draw.1
  obtain ⟨f, hf, ho⟩ := Linktrace.buildRequest_ok own htag target id
    (ttl.getD Linktrace.defaultTtl)
  rw [← hconfig, ← hown] at hf
  obtain ⟨hpending, hoffered⟩ := Node.turn_linktrace hf now
  refine ⟨id, f, ho, ?_, hpending⟩
  have hv : (h.wire.offer now f).2 = .ok () := hw h.wire.offered f.onLink
  unfold step
  dsimp only
  rw [hoffered]
  dsimp only [NodeEvent.time, Wire.offerAll]
  rw [hv]
  rfl

/-- What a node does with the reply to its linktrace message `id` when it arrives: it files the
reply behind those that it has if it still waits for replies to this message, and otherwise it
refuses the reply and stays as it was. -/
def Files (h : WiredNode) (ltr : Frame) (id : UInt32) (reply : Linktrace.Reply) (now : Nat) :
    Prop :=
  ∃ p, h.node.station.outstanding.linktrace = some p ∧
    (p.id = id → ∃ h', h' = h.noted (.recordLinktraceReply id reply) ∧
      h'.node.station.outstanding.linktrace = some { p with replies := p.replies ++ [reply] } ∧
      h.step (.receive ltr now) = (h', ⟨.dispatched (.ok (.linktraceMatched id reply)), []⟩)) ∧
    (p.id ≠ id → h.step (.receive ltr now) =
      (h, ⟨.dispatched (.error (.mismatch (.linktraceId id p.id))), []⟩))

theorem files_of_layout {f : Frame} {source : MacAddress} {tag : Option VlanTag} {hd : CfmHeader}
    {r : Linktrace.Request} {pad : Octets} {p : PendingLinktrace}
    (hf : f.octets = Frame.ethernetHeader own source tag ++
      (hd.octets ++ (Linktrace.replyPayload r .hit ++ pad)))
    (hh : hd.Fits) (hk : hd.opcode = Opcode.ltr.code) (hown : h.node.station.own = own)
    (ho : h.node.station.outstanding.linktrace = some p) :
    h.Files f r.id ⟨Linktrace.decrement r.ttl, true⟩ now := by
  subst hown
  have hs := h.node.station.dispatch_ltr hf hh hk ho now
  refine ⟨p, ho, ?_, ?_⟩
  · intro he
    rw [if_pos he] at hs
    refine ⟨_, rfl, ?_, ?_⟩
    · change (h.node.station.outstanding.recordLinktraceReply r.id _).linktrace = _
      unfold Outstanding.recordLinktraceReply
      rw [ho]
      exact congrArg some (if_pos he)
    · apply step_done
      unfold Node.dispatch
      rw [hs]
      rfl
  · intro hne
    rw [if_neg hne] at hs
    apply step_refused
    unfold Node.dispatch
    rw [hs]

/-- A node that has sent a linktrace message waits for replies to it or to a later one. -/
lemma exists_linktrace_run {p : PendingLinktrace}
    (h0 : h.node.station.outstanding.linktrace = some p) (evs : List NodeEvent) :
    ∃ pending, (h.run evs).node.station.outstanding.linktrace = some pending :=
  Option.isSome_iff_exists.1 <|
    outstanding_run (P := fun o => o.linktrace.isSome = true)
      (fun _ entry => Outstanding.isSome_linktrace_noted entry) (by rw [h0]; rfl) evs

end WiredNode

namespace Linktrace

variable {ttl : UInt8}

lemma one_le_iff : 1 ≤ ttl ↔ ttl ≠ 0 := by
  rw [UInt8.le_iff_toNat_le, Ne, ← UInt8.toNat_inj]
  exact Nat.one_le_iff_ne_zero

lemma decrement_of_one_le (h : 1 ≤ ttl) : decrement ttl = ttl - 1 := if_neg (one_le_iff.1 h)

lemma unanswered_iff {target own : MacAddress} :
    (target ≠ own ∨ ttl = 0) ↔ ¬ (target = own ∧ 1 ≤ ttl) := by
  rw [one_le_iff]
  tauto

end Linktrace

/-- A request of the operator of a valid node puts one linktrace message on the link. Any other
station than its target ignores the message, and so does the target if the message has no hops left.
Otherwise the target answers with one frame, which has the tag of the message, bit for bit, and the
level of the node. Whatever the node does and receives afterwards, it waits for replies to some
message; when the answer arrives, it files the answer behind those that it has if it still waits for
replies to this message, and otherwise it refuses the answer and stays as it was. -/
theorem linktrace_exchange {config : Config} {own : MacAddress} (h b : WiredNode)
    (hs : h.InService config own) (hv : config.validate = .ok ()) (hw : h.wire.Accepting)
    (hb : b.wire.Accepting) (target : MacAddress) (ttl : Option UInt8) (now time : Nat) :
    let hops := ttl.getD Linktrace.defaultTtl
    let asked := (h.step (.linktrace target ttl now)).1
    ∃ tag id xs ltm, config.tag = .ok tag ∧
      (h.step (.linktrace target ttl now)).2 = ⟨.traced (.ok id), [(xs, .ok ())]⟩ ∧
      (Frame.decode xs).1 = .ok (some ltm) ∧ ltm.tci? = tag.map VlanTag.tci ∧
      asked.node.station.outstanding.linktrace = some ⟨id, target, []⟩ ∧
      (¬ (target = b.node.station.own ∧ 1 ≤ hops) →
        b.step (.receive ltm time) = (b, ⟨.dispatched (.ok .ignored), []⟩)) ∧
      (target = b.node.station.own → 1 ≤ hops → ∃ ys ltr header,
        (b.step (.receive ltm time)).2 =
          ⟨.dispatched (.ok (.linktraceReplied id)), [(ys, .ok ())]⟩ ∧
        (Frame.decode ys).1 = .ok (some ltr) ∧ ltr.tci? = tag.map VlanTag.tci ∧
        ltr.header = .ok header ∧ header.level = config.level ∧
        ∀ evs later, (asked.run evs).Files ltr id ⟨hops - 1, true⟩ later) := by
  intro hops asked
  have hvalid := Config.valid_of_validate hv
  obtain ⟨tag, htag⟩ := Config.tag_ok hvalid.vlan
  obtain ⟨id, f, hf, hshown, hpending⟩ := WiredNode.step_linktrace hs htag hw target ttl now
  obtain ⟨ltm, pad, hltm, hlo⟩ := Frame.exists_received hf
  obtain ⟨reply, hro, hdispatch⟩ := b.node.station.dispatch_ltm hlo
    (Linktrace.fits_requestHeader config) rfl time
  refine ⟨tag, id, f.onLink, ltm, htag, hshown, hltm, Frame.tci?_eq hlo, hpending, ?_, ?_⟩
  · intro hnot
    apply WiredNode.step_done
    unfold Node.dispatch
    rw [hdispatch, if_pos (Linktrace.unanswered_iff.2 hnot)]
  · intro htarget hhops
    have hstep : b.node.dispatch ltm time = (b.node, .reply reply (.linktraceReplied id)) := by
      unfold Node.dispatch
      rw [hdispatch, if_neg fun hu => Linktrace.unanswered_iff.1 hu ⟨htarget, hhops⟩]
    obtain ⟨ltr, pad', hltr, hlo'⟩ := Frame.exists_received hro
    have hlevel : Frame.writtenLevel (Frame.writtenLevel config.level) = config.level := by
      rw [Frame.writtenLevel_of_le hvalid.level, Frame.writtenLevel_of_le hvalid.level]
    refine ⟨reply.onLink, ltr, _, WiredNode.step_reply_accepting hb hstep, hltr, ?_,
      Frame.header_eq hlo' (Linktrace.fits_replyHeader _), hlevel, ?_⟩
    · rw [Frame.tci?_eq hlo', Option.map_map]
      exact congrArg tag.map (funext fun t => VlanTag.tci_ofTci t.tci)
    · intro evs later
      obtain ⟨p, hp⟩ := WiredNode.exists_linktrace_run hpending evs
      obtain ⟨-, -, -, -, hown⟩ := (hs.run (.linktrace target ttl now :: evs)).templates
      rw [← Linktrace.decrement_of_one_le hhops]
      exact WiredNode.files_of_layout hlo' (Linktrace.fits_replyHeader _) rfl hown hp

/-- The first of two stations asks for the path to the second one with two hops, and files the
answer with the one that is left. -/
theorem linktrace_exchange_pair :
    let h : WiredNode := ⟨Pair.node false, { verdict := fun _ _ => .ok () }⟩
    let b : WiredNode := ⟨Pair.node true, { verdict := fun _ _ => .ok () }⟩
    let asked := (h.step (.linktrace (Pair.address true) (some 2) 0)).1
    (Pair.config false).validate = .ok () ∧
    ∃ xs ltm ys ltr, (h.step (.linktrace (Pair.address true) (some 2) 0)).2 =
        ⟨.traced (.ok 7), [(xs, .ok ())]⟩ ∧
      (Frame.decode xs).1 = .ok (some ltm) ∧
      (b.step (.receive ltm 0)).2 =
        ⟨.dispatched (.ok (.linktraceReplied 7)), [(ys, .ok ())]⟩ ∧
      (Frame.decode ys).1 = .ok (some ltr) ∧ ltr.tci? = none ∧
      asked.step (.receive ltr 0) = (asked.noted (.recordLinktraceReply 7 ⟨1, true⟩),
        ⟨.dispatched (.ok (.linktraceMatched 7 ⟨1, true⟩)), []⟩) := by
  intro h b asked
  have hs : h.InService (Pair.config false) (Pair.address false) :=
    ⟨_, _, _, _, [], Pair.create_eq false, rfl⟩
  have hb : Pair.address true = b.node.station.own := by
    change _ = (Pair.node true).station.own
    rw [Node.station_create (Pair.create_eq true)]
    rfl
  have hv : (Pair.config false).validate = .ok () := by decide
  obtain ⟨tag, id, xs, ltm, htag, hshown, hltm, -, hpending, -, hanswered⟩ :=
    linktrace_exchange h b hs hv (fun _ _ => rfl) (fun _ _ => rfl) (Pair.address true) (some 2) 0 0
  have hseven : (h.step (.linktrace (Pair.address true) (some 2) 0)).1.node.station.outstanding =
      { linktrace := some ⟨7, Pair.address true, []⟩ } := by decide +kernel
  rw [hseven] at hpending
  cases hpending
  cases htag
  obtain ⟨ys, ltr, -, hreply, hltr, htci, -, -, hfiles⟩ := hanswered hb (by decide)
  obtain ⟨p, hp, hsame, -⟩ := hfiles [] 0
  rw [WiredNode.run_nil, hseven] at hp
  cases hp
  obtain ⟨h', hh', -, hstep⟩ := hsame rfl
  subst hh'
  exact ⟨hv, xs, ltm, ys, ltr, hshown, hltm, hreply, hltr, htci, hstep⟩

end RingContinuity
