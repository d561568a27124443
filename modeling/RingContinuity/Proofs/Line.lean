import RingContinuity.Padding
import RingContinuity.Proofs.CcmReception
import RingContinuity.Proofs.Slots

/-!
# Two nodes on a line

A sender whose frames reach a receiver at once and without loss. What one event of such a line does
to the sender's schedule and to the receiver's knowledge of the sender is said here, step by step;
runs are in `RingContinuity.Proofs.FalseAlarms`.
-/

namespace RingContinuity

/-- What a node does about octets that its link delivers. -/
def Node.deliver (n : Node) (now : Nat) (xs : Octets) : Node :=
  match (Frame.decode xs).1 with
  | .ok (some f) => (n.dispatch f now).1
  | _ => n

/-- Two nodes, the first of which sends to the second. -/
structure Line where
  sender : Node
  receiver : Node

inductive LineEvent
  /-- The sender ticks, and the receiver gets everything that it offers. -/
  | send (now : Nat)
  /-- The receiver ticks. -/
  | watch (now : Nat)

def LineEvent.time : LineEvent → Nat
  | .send now | .watch now => now

namespace Line

def step (l : Line) : LineEvent → Line
  | .send now =>
    let (sender, tick) := l.sender.tick now
    ⟨sender, (tick.offered.map Frame.onLink).foldl (fun r xs => r.deliver now xs) l.receiver⟩
  | .watch now => { l with receiver := (l.receiver.tick now).1 }

def run (l : Line) (evs : List LineEvent) : Line := evs.foldl step l

/-- The event makes the sender send a continuity check. -/
def Sends (l : Line) : LineEvent → Prop
  | .send now => ∃ f ∈ (l.sender.tick now).2.offered, Station.IsCcm f
  | .watch _ => False

end Line

structure Config.Agree (c c' : Config) : Prop where
  vlan : c'.vlan = c.vlan
  level : c'.level = c.level
  domainName : c'.domainName = c.domainName
  associationName : c'.associationName = c.associationName
  interval : c'.interval = c.interval

/-- The receiver can follow the sender, which has the id `m`. -/
structure Config.Peers (sender receiver : Config) (m : UInt16) : Prop
    extends sender.Agree receiver where
  valid : sender.Valid
  mepId : sender.mepId = some m
  other : receiver.mepId ≠ some m

/-! ### What the receiver knows -/

/-- The end point was last heard at `last` and is not in defect. -/
structure RemoteMep.HeardAt (e : RemoteMep) (threshold last : Nat) : Prop where
  active : e.active = true
  defect : e.defect = false
  expiresAt : e.expiresAt = some (last + threshold)

namespace RemoteMep.HeardAt

variable {e : RemoteMep} {threshold last now : Nat}

lemma isOverdue_iff (h : e.HeardAt threshold last) :
    e.isOverdue now = true ↔ last + threshold ≤ now := by
  unfold isOverdue
  rw [h.active, h.defect, h.expiresAt]
  simp

lemma swept (h : e.HeardAt threshold last) (hnow : now < last + threshold) :
    (e.swept now).HeardAt threshold last := by
  have ho : e.isOverdue now = false := by
    rw [Bool.eq_false_iff, ne_eq, h.isOverdue_iff]
    omega
  refine ⟨h.active, ?_, h.expiresAt⟩
  change (e.defect || e.isOverdue now) = false
  rw [h.defect, ho]
  rfl

end RemoteMep.HeardAt

lemma MepTable.heardAt_set {t : MepTable} {id k : UInt16} {e : RemoteMep} {threshold last : Nat}
    (h : (t.entry id).HeardAt threshold last) (he : id = k → e.HeardAt threshold last) :
    ((t.set k e).entry id).HeardAt threshold last := by
  rw [entry_set]
  by_cases hid : id = k
  · rw [if_pos hid]
    exact he hid
  · rw [if_neg hid]
    exact h

/-- After the receipt of any frame, an end point that was heard at the very time is still heard at
that time: at most the frame is another continuity check from it. -/
lemma MepTable.heardAt_apply {t : MepTable} {id : UInt16} {now : Nat}
    (h : (t.entry id).HeardAt t.lossThreshold now) (f : Frame) (config : Config) :
    ((t.apply f config now).1.entry id).HeardAt t.lossThreshold now := by
  rcases t.apply_cases f config now with ⟨_, -, ha⟩ | ⟨c, -, ⟨-, ha⟩ | ⟨-, ⟨_, -, ha⟩ | ⟨-, ha⟩⟩⟩ <;>
    rw [ha]
  · exact h
  · refine heardAt_set h fun hid => ?_
    rw [← hid]
    exact ⟨h.active, h.defect, h.expiresAt⟩
  · refine heardAt_set h fun hid => ?_
    rw [← hid]
    exact ⟨rfl, h.defect, h.expiresAt⟩
  · exact heardAt_set h fun _ => ⟨rfl, rfl, rfl⟩

namespace Node

/-- The end point `m` was last heard by the node at `last`. -/
def Hears (n : Node) (m : UInt16) (last : Nat) : Prop :=
  (n.station.meps.entry m).HeardAt n.station.meps.lossThreshold last

lemma lossThreshold_dispatch (n : Node) (f : Frame) (now : Nat) :
    (n.dispatch f now).1.station.meps.lossThreshold = n.station.meps.lossThreshold := by
  by_cases hf : Station.IsCcm f
  · rw [dispatch_ccm hf]
    exact MepTable.lossThreshold_apply ..
  · rw [meps_dispatch_other hf]

lemma hears_dispatch {n : Node} {m : UInt16} {now : Nat} (h : n.Hears m now) (f : Frame) :
    (n.dispatch f now).1.Hears m now := by
  unfold Hears
  rw [lossThreshold_dispatch]
  by_cases hf : Station.IsCcm f
  · rw [dispatch_ccm hf]
    exact MepTable.heardAt_apply h f _
  · rw [meps_dispatch_other hf]
    exact h

lemma hears_deliver {n : Node} {m : UInt16} {now : Nat} (h : n.Hears m now) (xs : Octets) :
    (n.deliver now xs).Hears m now := by
  unfold deliver
  split
  · exact hears_dispatch h _
  · exact h

lemma hears_foldl {n : Node} {m : UInt16} {now : Nat} (h : n.Hears m now) (xss : List Octets) :
    (xss.foldl (fun r xs => r.deliver now xs) n).Hears m now := by
  induction xss generalizing n with
  | nil => exact h
  | cons xs xss ih => exact ih (hears_deliver h xs)

lemma lossThreshold_deliver (n : Node) (now : Nat) (xs : Octets) :
    (n.deliver now xs).station.meps.lossThreshold = n.station.meps.lossThreshold := by
  unfold deliver
  split
  · exact lossThreshold_dispatch ..
  · rfl

lemma kin_deliver (n : Node) (now : Nat) (xs : Octets) : n.Kin (n.deliver now xs) := by
  unfold deliver
  split
  · exact n.kin_dispatch ..
  · exact Kin.refl n

/-- A continuity check of a peer, as it is stamped and sent, makes the peer heard. -/
theorem hears_of_peer {n : Node} {sender : Config} {m : UInt16}
    (hp : sender.Peers n.station.config m) {f : Frame} {d own : MacAddress} {tag : Option VlanTag}
    {sequence : UInt32} (ht : sender.tag = .ok tag)
    (hf : f.octets = Frame.ethernetHeader d own tag ++
      ((Ccm.ownHeader sender).octets ++ Ccm.ownPayload sender m sequence)) (now : Nat) :
    (n.deliver now f.onLink).Hears m now := by
  obtain ⟨g, hg, hgo⟩ := f.decode_onLink
  rw [hf, List.append_assoc, List.append_assoc] at hgo
  have hr := Ccm.receive_own hp.valid hp.mepId ht hp.vlan hp.other hgo
  have hccm : Station.IsCcm g := by
    refine ⟨Frame.isCfm_eq hgo, ?_⟩
    rw [Frame.opcode_eq hgo (Ccm.fits_ownHeader sender)]
    rfl
  have hnames : (Ccm.said sender own m sequence).maid.checkNames n.station.config.domainName
      n.station.config.associationName = .ok () := by
    rw [hp.domainName, hp.associationName]
    exact Maid.checkNames_ofNames ..
  have ha : n.station.meps.apply g n.station.config now = (n.station.meps.set m
      ((n.station.meps.entry m).seen.refresh (Ccm.said sender own m sequence)
        (now + n.station.meps.lossThreshold)),
      .ok ⟨m, !(n.station.meps.entry m).active, (n.station.meps.entry m).defect⟩) := by
    have hlevel : (Ccm.said sender own m sequence).level = n.station.config.level := hp.level.symm
    unfold MepTable.apply
    rw [hr]
    dsimp only
    rw [if_neg (fun hne => hne hlevel), hnames]
    rfl
  unfold deliver
  rw [hg]
  dsimp only
  rw [dispatch_ccm hccm, ha]
  unfold Hears
  rw [meps_withMeps, MepTable.lossThreshold_set, MepTable.entry_set, if_pos rfl]
  exact ⟨rfl, rfl, rfl⟩

end Node

/-! ### What the sender sends -/

namespace Line

/-- A line between two peers, of which the sender has received nothing. -/
structure Between (l : Line) (sender : Config) (m : UInt16) : Prop where
  config : l.sender.station.config = sender
  peers : sender.Peers l.receiver.station.config m
  ccm : ∃ f d own tag, l.sender.schedule.ccm = some f ∧ sender.tag = .ok tag ∧
    f.octets = Frame.ethernetHeader d own tag ++
      ((Ccm.ownHeader sender).octets ++ Ccm.ownPayload sender m 0)
  deaf : l.sender.station.meps.rows = []
  threshold : l.receiver.station.meps.lossThreshold = sender.interval.lossThreshold

variable {l : Line} {sender : Config} {m : UInt16} {now : Nat}

lemma offered_eq (h : l.Between sender m) (now : Nat) :
    (l.sender.tick now).2.offered = (l.sender.runSlot now).2.2 := by
  have hlost : (l.sender.tick now).2.lost = [] := by
    rw [Node.lost_tick]
    change (l.sender.station.meps.rows.filter (·.2.isOverdue now)).map (·.1) = []
    rw [h.deaf]
    rfl
  rw [Node.offered_tick, if_pos hlost, List.append_nil]

lemma receiver_send (h : l.Between sender m) (now : Nat) : (l.step (.send now)).receiver =
    ((l.sender.runSlot now).2.2.map Frame.onLink).foldl (fun r xs => r.deliver now xs)
      l.receiver := by
  rw [← offered_eq h]
  rfl

lemma kin_foldl_deliver (n : Node) (now : Nat) (xss : List Octets) :
    n.Kin (xss.foldl (fun r xs => r.deliver now xs) n) ∧
      (xss.foldl (fun r xs => r.deliver now xs) n).station.meps.lossThreshold =
        n.station.meps.lossThreshold := by
  induction xss generalizing n with
  | nil => exact ⟨Node.Kin.refl n, rfl⟩
  | cons xs xss ih =>
    obtain ⟨hk, ht⟩ := ih (n.deliver now xs)
    exact ⟨(n.kin_deliver now xs).trans hk, ht.trans (n.lossThreshold_deliver now xs)⟩

/-- Whatever happens on the line, it stays one between the same peers. -/
theorem between_step (h : l.Between sender m) (ev : LineEvent) :
    (l.step ev).Between sender m := by
  obtain ⟨hc, hp, ⟨f, d, own, tag, hf, htag, hfo⟩, hd, ht⟩ := h
  cases ev with
  | send now =>
    have hk := l.sender.kin_tick now
    obtain ⟨hr, hthreshold⟩ := kin_foldl_deliver l.receiver now
      ((l.sender.tick now).2.offered.map Frame.onLink)
    refine ⟨hk.config.trans hc, ?_, ⟨f, d, own, tag, hk.ccm.trans hf, htag, hfo⟩, ?_,
      hthreshold.trans ht⟩
    · have hcfg : (l.step (.send now)).receiver.station.config = l.receiver.station.config :=
        hr.config
      rw [hcfg]
      exact hp
    · change (l.sender.tick now).1.station.meps.rows = []
      rw [Node.meps_tick]
      change l.sender.station.meps.rows.map _ = []
      rw [hd]
      rfl
  | watch now =>
    have hk := l.receiver.kin_tick now
    have hcfg : (l.step (.watch now)).receiver.station.config = l.receiver.station.config :=
      hk.config
    refine ⟨hc, ?_, ⟨f, d, own, tag, hf, htag, hfo⟩, hd, ?_⟩
    · rw [hcfg]
      exact hp
    · change (l.receiver.tick now).1.station.meps.lossThreshold = _
      rw [Node.meps_tick]
      exact ht

def sequence (l : Line) : UInt32 := l.sender.schedule.sequence

def nextSlot (l : Line) : Nat := l.sender.schedule.nextSlot

lemma send_early (h : l.Between sender m) (hn : now < l.nextSlot) :
    ¬ l.Sends (.send now) ∧ (l.step (.send now)).receiver = l.receiver ∧
      (l.step (.send now)).sequence = l.sequence ∧
      (l.step (.send now)).nextSlot = l.nextSlot := by
  have hr := Node.runSlot_early hn
  refine ⟨?_, ?_, ?_, ?_⟩
  · rintro ⟨f, hf, -⟩
    rw [offered_eq h, hr] at hf
    exact nomatch hf
  · rw [receiver_send h, hr]
    rfl
  · change (l.sender.runSlot now).1.schedule.sequence = _
    rw [hr]
    rfl
  · change (l.sender.runSlot now).1.schedule.nextSlot = _
    rw [hr]
    rfl

lemma send_due (h : l.Between sender m) (hn : l.nextSlot ≤ now) :
    (l.step (.send now)).sequence = l.sequence + 1 ∧
      (l.step (.send now)).nextSlot =
        if l.nextSlot + sender.interval.millis ≤ now then now + sender.interval.millis
        else l.nextSlot + sender.interval.millis := by
  obtain ⟨-, hs, hx⟩ := Node.runSlot_due hn
  rw [h.config] at hx
  exact ⟨hs, hx⟩

lemma send_skipped (h : l.Between sender m) (hn : l.nextSlot ≤ now)
    (hk : l.sequence.toNat % (sender.skips.toNat + 1) ≠ 0) :
    ¬ l.Sends (.send now) ∧ (l.step (.send now)).receiver = l.receiver := by
  have hfr : (l.sender.runSlot now).2.2 = [] := by
    rw [(Node.runSlot_due hn).1, h.config, if_neg]
    rw [Schedule.transmits_iff]
    exact hk
  refine ⟨?_, ?_⟩
  · rintro ⟨f, hf, -⟩
    rw [offered_eq h, hfr] at hf
    exact nomatch hf
  · rw [receiver_send h, hfr]
    rfl

/-- A slot that is not skipped sends a continuity check, and the receiver hears the sender. -/
theorem send_transmits (h : l.Between sender m) (hn : l.nextSlot ≤ now)
    (hk : l.sequence.toNat % (sender.skips.toNat + 1) = 0) :
    l.Sends (.send now) ∧ (l.step (.send now)).receiver.Hears m now := by
  obtain ⟨f, d, own, tag, hf, htag, hfo⟩ := h.ccm
  obtain ⟨f', hstamped, hfo'⟩ := Node.stampedCcm_of_layout hf hfo
  have hfr : (l.sender.runSlot now).2.2 = f' :: l.sender.stampedLbm?.toList := by
    rw [(Node.runSlot_due hn).1, h.config, if_pos, hstamped]
    · rfl
    · rw [Schedule.transmits_iff]
      exact hk
  refine ⟨⟨f', ?_, Frame.isCfm_eq hfo', ?_⟩, ?_⟩
  · rw [offered_eq h, hfr]
    exact List.mem_cons_self
  · rw [Frame.opcode_eq hfo' (Ccm.fits_ownHeader sender)]
    rfl
  · rw [receiver_send h, hfr]
    exact Node.hears_foldl (Node.hears_of_peer h.peers htag hfo' now) _

end Line
end RingContinuity
