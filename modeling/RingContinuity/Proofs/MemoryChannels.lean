import RingContinuity.Link.MemoryPair
import Mathlib.Data.List.Perm.Basic
import Mathlib.Tactic.Lemma

/-!
# The channels of a link in memory

The two ends of a link may be used from any number of threads. A send locks its end twice, once to
record its octets and again to deliver them, and in between anything may happen, the end of the peer
included; every other call is a single section. `SharedLink` lets the sections follow each other in
any order. Whatever the order is, each end receives what its peer sends and what is injected into
it, one by one and as it was.
-/

namespace RingContinuity

namespace MemoryLink

/-- The first section of a send. -/
def recording (l : MemoryLink) (side : Side) (xs : Octets) : MemoryLink :=
  l.update side fun e => { e with record := e.record ++ [xs] }

/-- The second section of a send. -/
def deliver (l : MemoryLink) (side : Side) (xs : Octets) : MemoryLink × Except Error Unit :=
  match l.endpoint? side.other with
  | none => (l, .ok ())
  | some peer =>
    if peer.dropped then (l, .error (.transport .peerDropped)) else (l.inject side.other xs, .ok ())

lemma send_eq (l : MemoryLink) (side : Side) (xs : Octets) :
    l.send side xs = (l.recording side xs).deliver side xs := by
  cases side <;> rfl

lemma send_snd (l : MemoryLink) (side : Side) (xs : Octets) :
    (l.send side xs).2 = (l.deliver side xs).2 := by
  unfold send deliver
  dsimp only
  cases l.endpoint? side.other with
  | none => rfl
  | some peer =>
    dsimp only
    split <;> rfl

lemma endpoint?_update (l : MemoryLink) (side : Side) (change : Endpoint → Endpoint) (x : Side) :
    (l.update side change).endpoint? x =
      if x = side then (l.endpoint? x).map change else l.endpoint? x := by
  cases side <;> cases x <;> rfl

end MemoryLink

/-! ### Histories -/

/-- What has happened on a link. A send is entered when it is recorded and when it is delivered. -/
inductive LinkEntry
  | recorded (side : Side) (xs : Octets)
  | delivered (side : Side) (xs : Octets) (result : Except Error Unit)
  | injected (side : Side) (xs : Octets)
  | received (side : Side) (item : Option Octets)
  | shown (side : Side) (frames : List Octets)
  | taken (side : Side) (frames : List Octets)
  | dropped (side : Side)

namespace LinkEntry

/-- The octets that an entry adds to those for an end: sent by its peer or injected. -/
def arrival? (x : Side) : LinkEntry → Option Octets
  | delivered side xs _ => if x = side.other then some xs else none
  | injected side xs => if x = side then some xs else none
  | _ => none

def receipt? (x : Side) : LinkEntry → Option Octets
  | received side item => if x = side then item else none
  | _ => none

lemma receipt?_eq_none {x : Side} {entry : LinkEntry} (h : ∀ item, entry ≠ .received x item) :
    entry.receipt? x = none := by
  cases entry with
  | received side item =>
    refine if_neg fun hx => h item ?_
    rw [hx]
  | _ => rfl

/-- What an end has on record after an entry. -/
def onRecord (x : Side) (frames : List Octets) : LinkEntry → List Octets
  | recorded side xs => if x = side then frames ++ [xs] else frames
  | taken side _ => if x = side then [] else frames
  | _ => frames

def drops (x : Side) : LinkEntry → Bool
  | dropped side => x = side
  | _ => false

/-- The send that has begun with an entry. -/
def begun? : LinkEntry → Option (Side × Octets)
  | recorded side xs => some (side, xs)
  | _ => none

/-- The send that has ended with an entry. -/
def ended? : LinkEntry → Option (Side × Octets)
  | delivered side xs _ => some (side, xs)
  | _ => none

end LinkEntry

lemma filterMap_concat {α β : Type} (f : α → Option β) (xs : List α) (a : α) :
    (xs ++ [a]).filterMap f = xs.filterMap f ++ (f a).toList := by
  rw [List.filterMap_append, List.filterMap_cons]
  cases f a <;> rfl

/-- The entries of a link, oldest first. -/
abbrev LinkLog := List LinkEntry

namespace LinkLog

variable (log : LinkLog) (x : Side)

def arrivals : List Octets := log.filterMap (LinkEntry.arrival? x)

def receipts : List Octets := log.filterMap (LinkEntry.receipt? x)

/-- What was recorded at an end since its record was last taken. -/
def sinceTaken : List Octets := log.foldl (LinkEntry.onRecord x) []

def gone : Bool := log.any (LinkEntry.drops x)

def begun : List (Side × Octets) := log.filterMap LinkEntry.begun?

def ended : List (Side × Octets) := log.filterMap LinkEntry.ended?

section Concat

variable {log x} (entry : LinkEntry)

lemma arrivals_concat :
    arrivals (log ++ [entry]) x = log.arrivals x ++ (entry.arrival? x).toList :=
  filterMap_concat ..

lemma receipts_concat :
    receipts (log ++ [entry]) x = log.receipts x ++ (entry.receipt? x).toList :=
  filterMap_concat ..

lemma begun_concat : begun (log ++ [entry]) = log.begun ++ entry.begun?.toList :=
  filterMap_concat ..

lemma ended_concat : ended (log ++ [entry]) = log.ended ++ entry.ended?.toList :=
  filterMap_concat ..

end Concat
end LinkLog

/-! ### Sections in any order -/

/-- The next section of a call at an end of a link. -/
inductive LinkSection
  | record (side : Side) (xs : Octets)
  /-- The send at this position of those that are under way delivers its octets. -/
  | deliver (position : Nat)
  | inject (side : Side) (xs : Octets)
  | receive (side : Side)
  | sent (side : Side)
  | takeSent (side : Side)
  | drop (side : Side)

/-- A link, the sends that are recorded and not delivered yet, and what happened so far. -/
structure SharedLink where
  link : MemoryLink
  underWay : List (Side × Octets) := []
  log : LinkLog := []

namespace SharedLink

def start (a b : MacAddress) : SharedLink := { link := MemoryLink.pair a b }

/-- The link after something has happened that no send begins or ends with. -/
def noting (t : SharedLink) (link : MemoryLink) (entry : LinkEntry) : SharedLink :=
  { t with link, log := t.log ++ [entry] }

/-- One section. Nothing is called at an end that was dropped, and an end is not dropped while one
of its sends is under way. -/
def step (t : SharedLink) : LinkSection → SharedLink
  | .record side xs =>
    if t.log.gone side then t
    else { t.noting (t.link.recording side xs) (.recorded side xs) with
      underWay := t.underWay ++ [(side, xs)] }
  | .deliver position =>
    match t.underWay[position]? with
    | none => t
    | some (side, xs) =>
      { t.noting (t.link.deliver side xs).1 (.delivered side xs (t.link.deliver side xs).2) with
        underWay := t.underWay.eraseIdx position }
  | .inject side xs =>
    if t.log.gone side then t else t.noting (t.link.inject side xs) (.injected side xs)
  | .receive side =>
    if t.log.gone side then t
    else t.noting (t.link.receive side).1 (.received side (t.link.receive side).2)
  | .sent side =>
    if t.log.gone side then t else t.noting t.link (.shown side (t.link.sent side))
  | .takeSent side =>
    if t.log.gone side then t
    else t.noting (t.link.takeSent side).1 (.taken side (t.link.takeSent side).2)
  | .drop side =>
    if t.log.gone side ∨ side ∈ t.underWay.map Prod.fst then t
    else t.noting (t.link.drop side) (.dropped side)

def run (t : SharedLink) (sections : List LinkSection) : SharedLink := sections.foldl step t

end SharedLink

/-! ### What an entry makes of an end -/

namespace Endpoint

/-- An end of a link after an entry. What is delivered to it after it was dropped is not kept. -/
def after (x : Side) (e : Endpoint) : LinkEntry → Endpoint
  | .recorded side xs => if x = side then { e with record := e.record ++ [xs] } else e
  | .delivered side xs _ =>
    if x = side.other ∧ e.dropped = false then { e with inbox := e.inbox ++ [xs] } else e
  | .injected side xs => if x = side then { e with inbox := e.inbox ++ [xs] } else e
  | .received side _ => if x = side then { e with inbox := e.inbox.tail } else e
  | .shown .. => e
  | .taken side _ => if x = side then { e with record := [] } else e
  | .dropped side => if x = side then { e with dropped := true } else e

section After

variable {x : Side} {e : Endpoint} {entry : LinkEntry}

lemma dropped_after : (e.after x entry).dropped = (e.dropped || entry.drops x) := by
  cases entry with
  | shown => exact (Bool.or_false _).symm
  | dropped side =>
    simp only [after, LinkEntry.drops]
    split
    · next hx => simp [hx]
    · next hx => simp [hx]
  | _ =>
    simp only [after, LinkEntry.drops, Bool.or_false]
    split <;> rfl

lemma record_after : (e.after x entry).record = entry.onRecord x e.record := by
  cases entry with
  | shown => rfl
  | _ =>
    simp only [after, LinkEntry.onRecord]
    split <;> rfl

/-- Nothing is lost between the inbox of an end and those who receive from it. -/
lemma receipt?_append_inbox (hd : e.dropped = false)
    (hr : ∀ item, entry = .received x item → item = e.inbox.head?) :
    (entry.receipt? x).toList ++ (e.after x entry).inbox =
      e.inbox ++ (entry.arrival? x).toList := by
  cases entry with
  | shown => exact (List.append_nil _).symm
  | received side item =>
    by_cases hx : x = side
    · subst hx
      rw [hr item rfl]
      cases h : e.inbox <;> simp [LinkEntry.receipt?, LinkEntry.arrival?, after, h]
    · simp [LinkEntry.receipt?, LinkEntry.arrival?, after, hx]
  | _ =>
    simp only [LinkEntry.receipt?, LinkEntry.arrival?, after, hd, and_true]
    split <;> simp

end After

/-- The end is what the history of the link has made of it. -/
structure Faithful (x : Side) (log : LinkLog) (e : Endpoint) : Prop where
  dropped : e.dropped = log.gone x
  record : e.record = log.sinceTaken x
  inbox : e.dropped = false → log.receipts x ++ e.inbox = log.arrivals x
  received : log.receipts x <+: log.arrivals x

namespace Faithful

variable {x : Side} {log : LinkLog} {e : Endpoint}

lemma start (x : Side) (a : MacAddress) : Faithful x [] { address := a } :=
  ⟨rfl, rfl, fun _ => rfl, List.prefix_rfl⟩

/-- The oldest frame of the inbox is the first one that was not received yet. -/
lemma head?_inbox (h : e.Faithful x log) (hd : e.dropped = false) :
    e.inbox.head? = (log.arrivals x)[(log.receipts x).length]? := by
  rw [← h.inbox hd, List.getElem?_append_right (Nat.le_refl _), Nat.sub_self,
    List.head?_eq_getElem?]

/-- An end stays what the history has made of it, if what is received comes out of its inbox. -/
theorem after (h : e.Faithful x log) (entry : LinkEntry)
    (hr : ∀ item, entry = .received x item → e.dropped = false ∧ item = e.inbox.head?) :
    (e.after x entry).Faithful x (log ++ [entry]) := by
  have hkept : e.dropped = false → LinkLog.receipts (log ++ [entry]) x ++ (e.after x entry).inbox =
      LinkLog.arrivals (log ++ [entry]) x := by
    intro hd
    rw [LinkLog.arrivals_concat, LinkLog.receipts_concat, List.append_assoc,
      receipt?_append_inbox hd fun item hi => (hr item hi).2, ← List.append_assoc, h.inbox hd]
  refine ⟨?_, ?_, fun hd => ?_, ?_⟩
  · rw [dropped_after, h.dropped]
    simp [LinkLog.gone]
  · rw [record_after, h.record]
    simp [LinkLog.sinceTaken]
  · rw [dropped_after] at hd
    exact hkept (Bool.or_eq_false_iff.1 hd).1
  · cases hd : e.dropped with
    | false => exact ⟨_, hkept hd⟩
    | true =>
      -- Nothing is received at an end that was dropped.
      have hno : entry.receipt? x = none :=
        LinkEntry.receipt?_eq_none fun item hi => Bool.false_ne_true ((hr item hi).1.symm.trans hd)
      rw [LinkLog.arrivals_concat, LinkLog.receipts_concat, hno]
      exact List.IsPrefix.trans (by simpa using h.received) (List.prefix_append _ _)

end Faithful
end Endpoint

/-! ### What a section does -/

namespace MemoryLink

/-- The link has gone from one state to the other as an entry says. -/
def Follows (l l' : MemoryLink) (entry : LinkEntry) : Prop :=
  ∀ x e, l.endpoint? x = some e → l'.endpoint? x = some (e.after x entry)

section Follows

variable (l : MemoryLink) (side : Side) {change : Endpoint → Endpoint} {entry : LinkEntry}

lemma follows_update (h : ∀ x e, Endpoint.after x e entry = if x = side then change e else e) :
    l.Follows (l.update side change) entry := by
  intro x e he
  rw [endpoint?_update, he, h]
  by_cases hx : x = side
  · rw [if_pos hx, if_pos hx]
    rfl
  · rw [if_neg hx, if_neg hx]

lemma follows_deliver (xs : Octets) (result : Except Error Unit) :
    l.Follows (l.deliver side xs).1 (.delivered side xs result) := by
  intro x e he
  unfold deliver
  change _ = some (if x = side.other ∧ e.dropped = false then _ else e)
  by_cases hx : x = side.other
  · subst hx
    rw [he]
    dsimp only
    by_cases hd : e.dropped = true
    · rw [if_pos hd, if_neg (by simp [hd])]
      exact he
    · rw [if_neg hd, if_pos ⟨rfl, Bool.eq_false_iff.2 hd⟩]
      unfold inject
      rw [endpoint?_update, if_pos rfl, he]
      rfl
  · rw [if_neg fun h => hx h.1]
    split
    · exact he
    · split
      · exact he
      · unfold inject
        rw [endpoint?_update, if_neg hx, he]

end Follows
end MemoryLink

namespace SharedLink

/-- What is received, if anything, is what the inbox of an end that is there has to give. -/
def Gives (t : SharedLink) (entry : LinkEntry) : Prop :=
  ∀ side item, entry = .received side item →
    t.log.gone side = false ∧ item = (t.link.receive side).2

/-- What a section can make of a link. -/
inductive Outcome (t : SharedLink) : SharedLink → Prop
  | refused : Outcome t t
  | recorded (side : Side) (xs : Octets) :
    Outcome t { t.noting (t.link.recording side xs) (.recorded side xs) with
      underWay := t.underWay ++ [(side, xs)] }
  | delivered {position : Nat} {side : Side} {xs : Octets}
    (h : t.underWay[position]? = some (side, xs)) :
    Outcome t { t.noting (t.link.deliver side xs).1 (.delivered side xs (t.link.deliver side xs).2)
      with underWay := t.underWay.eraseIdx position }
  /-- Every other section begins no send and ends none. -/
  | noted {link : MemoryLink} {entry : LinkEntry} (h : t.link.Follows link entry)
    (hgives : t.Gives entry) (hbegun : entry.begun? = none) (hended : entry.ended? = none) :
    Outcome t (t.noting link entry)

theorem step_outcome (t : SharedLink) (s : LinkSection) : t.Outcome (t.step s) := by
  cases s with
  | record side xs =>
    simp only [step]
    split
    · exact .refused
    · exact .recorded side xs
  | deliver position =>
    simp only [step]
    split
    · exact .refused
    · next hp => exact .delivered hp
  | inject side xs =>
    simp only [step]
    split
    · exact .refused
    · exact .noted (MemoryLink.follows_update _ side fun _ _ => rfl)
        (fun _ _ hi => nomatch hi) rfl rfl
  | receive side =>
    simp only [step]
    split
    · exact .refused
    · next hgone =>
      refine .noted (MemoryLink.follows_update _ side fun _ _ => rfl) ?_ rfl rfl
      intro _ _ hi
      cases hi
      exact ⟨Bool.eq_false_iff.2 hgone, rfl⟩
  | sent side =>
    simp only [step]
    split
    · exact .refused
    · exact .noted (fun _ _ he => he) (fun _ _ hi => nomatch hi) rfl rfl
  | takeSent side =>
    simp only [step]
    split
    · exact .refused
    · exact .noted (MemoryLink.follows_update _ side fun _ _ => rfl)
        (fun _ _ hi => nomatch hi) rfl rfl
  | drop side =>
    simp only [step]
    split
    · exact .refused
    · exact .noted (MemoryLink.follows_update _ side fun _ _ => rfl)
        (fun _ _ hi => nomatch hi) rfl rfl

/-- What holds after any number of sections. -/
structure Sound (t : SharedLink) : Prop where
  ends : ∀ x, ∃ e, t.link.endpoint? x = some e ∧ e.Faithful x t.log
  sends : List.Perm t.log.begun (t.log.ended ++ t.underWay)

namespace Sound

variable {t t' : SharedLink} {link : MemoryLink} {entry : LinkEntry}

/-- Both ends stay what the history has made of them, if a link changes as the entry says. -/
lemma ends_noting (h : t.Sound) (hlink : t.link.Follows link entry) (hgives : t.Gives entry)
    (x : Side) :
    ∃ e, link.endpoint? x = some e ∧ e.Faithful x (t.log ++ [entry]) := by
  obtain ⟨e, he, hf⟩ := h.ends x
  refine ⟨_, hlink x e he, hf.after entry fun item hi => ?_⟩
  obtain ⟨hgone, rfl⟩ := hgives x item hi
  refine ⟨hf.dropped.trans hgone, ?_⟩
  rw [MemoryLink.receive, he]
  rfl

lemma start (a b : MacAddress) : (SharedLink.start a b).Sound := by
  refine ⟨fun x => ?_, List.Perm.nil⟩
  cases x with
  | first => exact ⟨_, rfl, .start .first a⟩
  | second => exact ⟨_, rfl, .start .second b⟩

/-- One section keeps both ends what the history has made of them, and loses no send. -/
theorem outcome (h : t.Sound) (ho : t.Outcome t') : t'.Sound := by
  cases ho with
  | refused => exact h
  | recorded side xs =>
    refine ⟨h.ends_noting (MemoryLink.follows_update _ side fun _ _ => rfl)
      (fun _ _ hi => nomatch hi), ?_⟩
    have hsends := h.sends.append_right [(side, xs)]
    rw [List.append_assoc] at hsends
    simpa [SharedLink.noting, LinkLog.begun_concat, LinkLog.ended_concat, LinkEntry.begun?,
      LinkEntry.ended?] using hsends
  | @delivered position side xs hp =>
    refine ⟨h.ends_noting (MemoryLink.follows_deliver _ side xs _)
      (fun _ _ hi => nomatch hi), ?_⟩
    obtain ⟨hlt, hp⟩ := List.getElem?_eq_some_iff.1 hp
    have herase := List.getElem_cons_eraseIdx_perm hlt
    rw [hp] at herase
    have hsends := h.sends.trans (herase.symm.append_left t.log.ended)
    simpa [SharedLink.noting, LinkLog.begun_concat, LinkLog.ended_concat, LinkEntry.begun?,
      LinkEntry.ended?] using hsends
  | noted hlink hgives hbegun hended =>
    refine ⟨h.ends_noting hlink hgives, ?_⟩
    simpa [SharedLink.noting, LinkLog.begun_concat, LinkLog.ended_concat, hbegun, hended]
      using h.sends

theorem run (h : t.Sound) (sections : List LinkSection) : (t.run sections).Sound := by
  induction sections generalizing t with
  | nil => exact h
  | cons s sections ih => exact ih (h.outcome (t.step_outcome s))

end Sound

/-! ### What the calls give -/

section Answers

variable {t : SharedLink} (h : t.Sound) (side : Side)
include h

lemma Sound.receipts : t.log.receipts side <+: t.log.arrivals side := by
  obtain ⟨e, -, hf⟩ := h.ends side
  exact hf.received

lemma Sound.receive_snd (hgone : t.log.gone side = false) :
    (t.link.receive side).2 = (t.log.arrivals side)[(t.log.receipts side).length]? := by
  obtain ⟨e, he, hf⟩ := h.ends side
  rw [MemoryLink.receive, he]
  exact hf.head?_inbox (hf.dropped.trans hgone)

lemma Sound.sent_eq : t.link.sent side = t.log.sinceTaken side := by
  obtain ⟨e, he, hf⟩ := h.ends side
  rw [MemoryLink.sent, he]
  exact hf.record

/-- A delivery fails exactly when the peer was dropped. -/
lemma Sound.deliver_snd (xs : Octets) :
    (t.link.deliver side xs).2 =
      if t.log.gone side.other then .error (.transport .peerDropped) else .ok () := by
  obtain ⟨e, he, hf⟩ := h.ends side.other
  rw [MemoryLink.deliver, he, ← hf.dropped]
  dsimp only
  split <;> rfl

lemma Sound.step_deliver {position : Nat} {xs : Octets}
    (hp : t.underWay[position]? = some (side, xs)) :
    (t.step (.deliver position)).log = t.log ++
      [.delivered side xs
        (if t.log.gone side.other then .error (.transport .peerDropped) else .ok ())] := by
  simp only [SharedLink.step, hp, SharedLink.noting, h.deliver_snd]

end Answers

/-- A send with nothing between its two sections is a send on the link. -/
lemma step_record_deliver {t : SharedLink} {side : Side} (hgone : t.log.gone side = false)
    (xs : Octets) :
    (t.step (.record side xs)).step (.deliver t.underWay.length) =
      ⟨(t.link.send side xs).1, t.underWay,
        t.log ++ [.recorded side xs, .delivered side xs (t.link.send side xs).2]⟩ := by
  simp [SharedLink.step, hgone, SharedLink.noting, MemoryLink.send_eq,
    List.eraseIdx_append_of_length_le]

/-! ### The order of the sends -/

section Order

variable (t : SharedLink) {t' : SharedLink} (side : Side)

/-- The sends that are under way at an end. -/
def sending : List (Side × Octets) := t.underWay.filter (·.1 = side)

/-- The sends of an end have been delivered in the order they were recorded in. -/
def InOrder : Prop :=
  t.log.begun.filter (·.1 = side) = t.log.ended.filter (·.1 = side) ++ t.sending side

variable {t side}

/-- Where at most one element is chosen, it does not matter where it stood. -/
lemma filter_eraseIdx {α : Type} {p : α → Bool} {l : List α} {i : Nat} {x : α}
    (hl : l[i]? = some x) (h : (l.filter p).length ≤ 1) :
    l.filter p = (if p x then [x] else []) ++ (l.eraseIdx i).filter p := by
  obtain ⟨hlt, rfl⟩ := List.getElem?_eq_some_iff.1 hl
  have hsplit : l.filter p = (l.take i).filter p ++ (l[i] :: l.drop (i + 1)).filter p := by
    rw [← List.filter_append, List.getElem_cons_drop, List.take_append_drop]
  rw [List.filter_cons] at hsplit
  rw [List.eraseIdx_eq_take_drop_succ, List.filter_append]
  cases hx : p l[i] with
  | false => simpa only [hx, Bool.false_eq_true, if_false, List.nil_append] using hsplit
  | true =>
    rw [hx, if_pos rfl] at hsplit
    have htake : (l.take i).filter p = [] := by
      rw [hsplit, List.length_append, List.length_cons] at h
      exact List.length_eq_zero_iff.1 (by omega)
    rw [hsplit, htake, if_pos rfl]
    rfl

/-- One section keeps the order, if the sends of the end do not overlap. -/
lemma InOrder.outcome (h : t.InOrder side) (halone : (t.sending side).length ≤ 1)
    (ho : t.Outcome t') : t'.InOrder side := by
  unfold InOrder sending at *
  cases ho with
  | refused => exact h
  | recorded side' xs =>
    simp [noting, LinkLog.begun_concat, LinkLog.ended_concat, LinkEntry.begun?, LinkEntry.ended?, h]
  | delivered hp =>
    rw [filter_eraseIdx hp halone, ← List.append_assoc] at h
    simp only [noting, LinkLog.begun_concat, LinkLog.ended_concat, LinkEntry.begun?,
      LinkEntry.ended?, Option.toList_none, Option.toList_some, List.append_nil,
      List.filter_append, List.filter_cons, List.filter_nil, h]
  | noted _ _ hbegun hended =>
    simpa [noting, LinkLog.begun_concat, LinkLog.ended_concat, hbegun, hended] using h

/-- The sends of an end that never overlap are delivered in the order they were recorded in. -/
theorem InOrder.run {sections : List LinkSection} (h : t.InOrder side)
    (halone : ∀ n, ((t.run (sections.take n)).sending side).length ≤ 1) :
    (t.run sections).InOrder side := by
  induction sections generalizing t with
  | nil => exact h
  | cons s sections ih =>
    exact ih (h.outcome (halone 0) (t.step_outcome s)) fun n => halone (n + 1)

end Order

/-- Two ends in memory are connected by reliable channels, and each keeps a record of what was sent.
Whatever the order of the sections is:

* what an end has received are the first octets of those that its peer sent and that were injected,
  and each send is delivered once and as it was recorded;
* a call to receive gives the next of them, whether or not the peer is still there, and nothing only
  if there is none left;
* a send fails exactly when the peer was dropped before it is delivered, and what an end shows or
  gives away of its record are the sends since it was last taken, failed ones included;
* the sends of an end that do not overlap are delivered in the order of the calls. -/
theorem channels_and_records (a b : MacAddress) (sections : List LinkSection) (side : Side)
    {t : SharedLink} (ht : t = (start a b).run sections) :
    t.log.receipts side <+: t.log.arrivals side ∧
    List.Perm t.log.begun (t.log.ended ++ t.underWay) ∧
    (t.log.gone side = false →
      (t.step (.receive side)).log = t.log ++
        [.received side (t.log.arrivals side)[(t.log.receipts side).length]?] ∧
      ((t.link.receive side).2 = none → t.log.receipts side = t.log.arrivals side) ∧
      (t.step (.sent side)).log = t.log ++ [.shown side (t.log.sinceTaken side)] ∧
      (t.step (.takeSent side)).log = t.log ++ [.taken side (t.log.sinceTaken side)] ∧
      ∀ xs, (t.step (.inject side xs)).log = t.log ++ [.injected side xs] ∧
        (t.step (.record side xs)).step (.deliver t.underWay.length) =
          ⟨(t.link.send side xs).1, t.underWay, t.log ++ [.recorded side xs, .delivered side xs
            (if t.log.gone side.other then .error (.transport .peerDropped) else .ok ())]⟩) ∧
    (∀ position xs, t.underWay[position]? = some (side, xs) →
      (t.step (.deliver position)).log = t.log ++ [.delivered side xs
        (if t.log.gone side.other then .error (.transport .peerDropped) else .ok ())]) ∧
    ((∀ n, (((start a b).run (sections.take n)).sending side).length ≤ 1) → t.InOrder side) := by
  have h : t.Sound := ht ▸ (Sound.start a b).run sections
  refine ⟨h.receipts side, h.sends, fun hgone => ⟨?_, fun hnone => ?_, ?_, ?_, fun xs => ⟨?_, ?_⟩⟩,
    fun position xs hp => h.step_deliver side hp, fun halone => ?_⟩
  · simp only [step, hgone, noting, h.receive_snd side hgone, Bool.false_eq_true, if_false]
  · rw [h.receive_snd side hgone, List.getElem?_eq_none_iff] at hnone
    exact (h.receipts side).eq_of_length_le hnone
  · simp only [step, hgone, noting, h.sent_eq, Bool.false_eq_true, if_false]
  · simp only [step, hgone, noting, MemoryLink.takeSent, h.sent_eq, Bool.false_eq_true, if_false]
  · simp only [step, hgone, noting, Bool.false_eq_true, if_false]
  · rw [step_record_deliver hgone, MemoryLink.send_snd, h.deliver_snd]
  · rw [ht]
    exact InOrder.run rfl halone

/-- The first end is dropped while the second one has a send under way: that send fails, and what
the first one delivered before is still received. -/
theorem channels_and_records_peerDropped :
    let t := (start ⟨2, 0, 0, 0, 0, 1⟩ ⟨2, 0, 0, 0, 0, 2⟩).run
      [.record .first [1, 2], .deliver 0, .inject .second [9], .record .second [7], .drop .first]
    (t.step (.deliver 0)).log =
      t.log ++ [.delivered .second [7] (.error (.transport .peerDropped))] ∧
    (t.step (.receive .second)).log = t.log ++ [.received .second (some [1, 2])] ∧
    (t.step (.takeSent .second)).log = t.log ++ [.taken .second [[7]]] ∧
    t.InOrder .second := by
  intro t
  obtain ⟨-, -, hcalls, hdeliver, horder⟩ := channels_and_records ⟨2, 0, 0, 0, 0, 1⟩
    ⟨2, 0, 0, 0, 0, 2⟩ _ .second (rfl : t = _)
  obtain ⟨hreceive, -, -, htake, -⟩ := hcalls rfl
  refine ⟨hdeliver 0 [7] rfl, hreceive, htake, horder fun n => ?_⟩
  obtain hn | hn := Nat.lt_or_ge n 5
  · revert n
    decide
  · rw [List.take_of_length_le hn]
    exact Nat.le_of_ble_eq_true rfl

end SharedLink
end RingContinuity
