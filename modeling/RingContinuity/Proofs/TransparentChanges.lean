import RingContinuity.Proofs.LoopbackReplies
import RingContinuity.Proofs.RecordWalk

/-!
# Changes that readers do not see

A change of a frame is transparent if its fields are still found. Then every message is read as
before the change, because readers look at nothing but the fields, and a loopback message is
answered as before. How much of a failure has to be found again is up to the kind of change:
`Concur` relates the results of two readers, and only a full one also relates their failures.
-/

namespace RingContinuity

/-! ### Octets at an offset -/

namespace Octets

variable {xs ys : Octets} {i j n : Nat}

lemma be16_inj {m n : UInt16} (h : be16 m = be16 n) : m = n := by
  have hw := congrArg (fun xs : Octets => word16 (xs.headD 0) (xs.getLastD 0)) h
  change word16 (m >>> 8).toUInt8 m.toUInt8 = word16 (n >>> 8).toUInt8 n.toUInt8 at hw
  rwa [word16_be16, word16_be16] at hw

lemma take_drop_eq_be16 (h : i + 2 ≤ xs.length) : (xs.drop i).take 2 = be16 (read16 xs i h) := by
  rw [drop_eq_be16 h]
  rfl

lemma getElem_append (h : i < xs.length) (ys : Octets) (h' : i < (xs ++ ys).length) :
    (xs ++ ys)[i] = xs[i] := List.getElem_append_left h

lemma read16_append (h : i + 2 ≤ xs.length) (ys : Octets) (h' : i + 2 ≤ (xs ++ ys).length) :
    read16 (xs ++ ys) i h' = read16 xs i h := by
  unfold read16
  rw [getElem_append (by omega), getElem_append (by omega)]

lemma read32_append (h : i + 4 ≤ xs.length) (ys : Octets) (h' : i + 4 ≤ (xs ++ ys).length) :
    read32 (xs ++ ys) i h' = read32 xs i h := by
  unfold read32
  rw [getElem_append (by omega), getElem_append (by omega), getElem_append (by omega),
    getElem_append (by omega)]

lemma slice_append (h : i + n ≤ xs.length) (ys : Octets) (h' : i + n ≤ (xs ++ ys).length) :
    slice (xs ++ ys) i n h' = slice xs i n h := by
  unfold slice
  rw [List.drop_append_of_le_length (by omega),
    List.take_append_of_le_length (by rw [List.length_drop]; omega)]

lemma fit_append_zeros (xs : Octets) (k n : Nat) :
    fit (xs ++ List.replicate k 0) n = fit xs n := by
  unfold fit
  rw [List.take_append, List.take_replicate, List.append_assoc, List.replicate_append_replicate,
    List.length_append, List.length_replicate,
    show min (n - xs.length) k + (n - (xs.length + k)) = n - xs.length by omega]

lemma overwrite_append_left {field : Octets} (h : i + field.length ≤ xs.length) (ys : Octets) :
    overwrite (xs ++ ys) i field = overwrite xs i field ++ ys := by
  unfold overwrite
  rw [List.take_append_of_le_length (by omega), List.drop_append_of_le_length h]
  simp only [List.append_assoc]

lemma overwrite_append_right (xs ys : Octets) (i : Nat) (field : Octets) :
    overwrite (xs ++ ys) (xs.length + i) field = xs ++ overwrite ys i field := by
  unfold overwrite
  rw [List.take_length_add_append, Nat.add_assoc, List.drop_length_add_append]
  simp only [List.append_assoc]

end Octets

namespace MacAddress

lemma readAt_append {xs : Octets} {i : Nat} (h : i + 6 ≤ xs.length) (ys : Octets)
    (h' : i + 6 ≤ (xs ++ ys).length) : readAt (xs ++ ys) i h' = readAt xs i h := by
  unfold readAt
  rw [Octets.getElem_append (by omega), Octets.getElem_append (by omega),
    Octets.getElem_append (by omega), Octets.getElem_append (by omega),
    Octets.getElem_append (by omega), Octets.getElem_append (by omega)]

end MacAddress

lemma CfmHeader.readAt_append {xs : Octets} {i : Nat} (h : i + 3 < xs.length) (ys : Octets)
    (h' : i + 3 < (xs ++ ys).length) : readAt (xs ++ ys) i h' = readAt xs i h := by
  unfold readAt
  rw [Octets.getElem_append (by omega), Octets.getElem_append (by omega),
    Octets.getElem_append (by omega), Octets.getElem_append (by omega)]

namespace Frame

/-- The tag test compares two octets. -/
theorem isTagged_iff (f : Frame) :
    f.isTagged = true ↔ (f.octets.drop 12).take 2 = Octets.be16 etherTypeVlan := by
  unfold isTagged word16At need
  by_cases h : 12 + 2 ≤ f.octets.length
  · rw [dif_pos h, Octets.take_drop_eq_be16 h]
    exact ⟨fun heq => congrArg Octets.be16 (Option.some.inj (eq_of_beq heq)),
      fun heq => beq_iff_eq.2 (congrArg some (Octets.be16_inj heq))⟩
  · rw [dif_neg h]
    refine ⟨nofun, fun heq => absurd (congrArg List.length heq) ?_⟩
    rw [List.length_take, List.length_drop, Octets.length_be16]
    omega

lemma cfmOffset_congr {f g : Frame} (h : g.isTagged = f.isTagged) : g.cfmOffset = f.cfmOffset := by
  unfold cfmOffset
  rw [h]

lemma le_cfmOffset (f : Frame) : 14 ≤ f.cfmOffset := by
  unfold cfmOffset
  split <;> omega

lemma payloadOffset_congr {f g : Frame} (h : g.isTagged = f.isTagged) :
    g.payloadOffset = f.payloadOffset := by
  unfold payloadOffset
  rw [cfmOffset_congr h]

lemma le_payloadOffset (f : Frame) : 14 ≤ f.payloadOffset :=
  Nat.le_add_right_of_le f.le_cfmOffset

lemma edited_writeAt (f : Frame) (i : Nat) (field : Octets) (name : FrameField) :
    f.edited (writeAt i field name) =
      if h : i + field.length ≤ f.octets.length then
        .ok { f with
          octets := Octets.overwrite f.octets i field
          length_le := by rw [Octets.length_overwrite h]; exact f.length_le }
      else .error (.malformed (.tooShort f.octets.length name)) := by
  unfold edited EStateM.run writeAt
  by_cases h : i + field.length ≤ f.octets.length
  · rw [dif_pos h, dif_pos h]
  · rw [dif_neg h, dif_neg h]

end Frame

/-! ### Results that concur -/

/-- The error, no matter how long a frame was that is too short for a field. -/
def Error.kind : Error → Error
  | .malformed (.tooShort _ field) => .malformed (.tooShort 0 field)
  | cause => cause

/-- The same result, or errors that differ at most in the length that they name. -/
def Alike {α : Type} (x y : Except Error α) : Prop := y.mapError Error.kind = x.mapError Error.kind

/-- If the first computation has a result, then the second one has a related one. If the first
fails, then a full agreement wants an error of the same kind, and any other wants nothing. -/
inductive Concur {α β : Type} (full : Prop) (R : α → β → Prop) :
    Except Error α → Except Error β → Prop
  | ok {a : α} {b : β} (h : R a b) : Concur full R (.ok a) (.ok b)
  | error {cause cause' : Error} (h : full → cause'.kind = cause.kind) :
    Concur full R (.error cause) (.error cause')
  | gained {cause : Error} {b : β} (h : ¬ full) : Concur full R (.error cause) (.ok b)

namespace Concur

variable {α β γ δ : Type} {full : Prop} {R : α → β → Prop} {S : γ → δ → Prop}

lemma refl (full : Prop) (x : Except Error α) : Concur full Eq x x := by
  cases x with
  | error cause => exact .error fun _ => rfl
  | ok a => exact .ok rfl

lemma of_error {cause : Error} {y : Except Error β}
    (h : full → ∃ cause', y = .error cause' ∧ cause'.kind = cause.kind) :
    Concur full R (.error cause) y := by
  cases y with
  | error cause' =>
    refine .error fun hfull => ?_
    obtain ⟨_, he, hk⟩ := h hfull
    cases he
    exact hk
  | ok b =>
    refine .gained fun hfull => ?_
    obtain ⟨_, he, -⟩ := h hfull
    cases he

/-- A result that is kept concurs, and a failure only needs to be kept if the agreement is full. -/
lemma of_imp {x y : Except Error α} (hok : ∀ a, x = .ok a → y = .ok a) (hfull : full → y = x) :
    Concur full Eq x y := by
  cases x with
  | error cause => exact of_error fun h => ⟨cause, hfull h, rfl⟩
  | ok a =>
    rw [hok a rfl]
    exact .ok rfl

lemma exists_ok {a : α} {y : Except Error β} (h : Concur full R (.ok a) y) :
    ∃ b, y = .ok b ∧ R a b := by
  cases h with
  | ok hr => exact ⟨_, rfl, hr⟩

lemma eq_ok {x y : Except Error α} (h : Concur full Eq x y) {a : α} (ha : x = .ok a) :
    y = .ok a := by
  rw [ha] at h
  obtain ⟨b, hb, he⟩ := h.exists_ok
  rw [he]
  exact hb

lemma alike {x y : Except Error α} (h : Concur True Eq x y) : Alike x y := by
  unfold Alike
  cases h with
  | ok hr => rw [hr]
  | error hk => exact congrArg Except.error (hk trivial)
  | gained hn => exact absurd trivial hn

lemma bind {x : Except Error α} {y : Except Error β} {k : α → Except Error γ}
    {l : β → Except Error δ} (h : Concur full R x y)
    (hk : ∀ a b, R a b → Concur full S (k a) (l b)) : Concur full S (x >>= k) (y >>= l) := by
  cases h with
  | ok hr => exact hk _ _ hr
  | error hc => exact .error hc
  | gained hn => exact of_error fun hfull => absurd hfull hn

lemma imp {S : α → β → Prop} {x : Except Error α} {y : Except Error β} (h : Concur full R x y)
    (hRS : ∀ a b, R a b → S a b) : Concur full S x y := by
  cases h with
  | ok hr => exact .ok (hRS _ _ hr)
  | error hc => exact .error hc
  | gained hn => exact .gained hn

lemma map {x : Except Error α} {y : Except Error β} {k : α → γ} {l : β → δ}
    (h : Concur full R x y) (hk : ∀ a b, R a b → S (k a) (l b)) :
    Concur full S (x.map k) (y.map l) := by
  cases h with
  | ok hr => exact .ok (hk _ _ hr)
  | error hc => exact .error hc
  | gained hn => exact .gained hn

/-- Two readers that go on under conditions of their own: the second one goes on where the first
does, and, for a full agreement, nowhere else. -/
lemma dite {p q : Prop} [Decidable p] [Decidable q] {cause cause' : Error}
    {x : p → Except Error α} {y : q → Except Error β} (hk : cause'.kind = cause.kind)
    (hpq : p → q) (hqp : full → q → p) (hxy : ∀ hp hq, Concur full R (x hp) (y hq)) :
    Concur full R (if h : p then x h else .error cause) (if h : q then y h else .error cause') := by
  by_cases hp : p
  · rw [dif_pos hp, dif_pos (hpq hp)]
    exact hxy hp (hpq hp)
  · rw [dif_neg hp]
    exact of_error fun hfull => ⟨cause', dif_neg fun hq => hp (hqp hfull hq), hk⟩

lemma guard {p q : Prop} [Decidable p] [Decidable q] {ε : Type} {cause cause' : Error}
    {k : ε → Except Error α} {l : ε → Except Error β} {x : Except Error α} {y : Except Error β}
    (hk : cause'.kind = cause.kind) (hqp : q → p) (hpq : full → p → q)
    (hxy : ¬ p → ¬ q → Concur full R x y) :
    Concur full R (if p then (throw cause >>= k) else x)
      (if q then (throw cause' >>= l) else y) := by
  by_cases hp : p
  · rw [if_pos hp]
    exact of_error fun hfull => ⟨cause', by rw [if_pos (hpq hfull hp)]; rfl, hk⟩
  · rw [if_neg hp, if_neg fun hq => hp (hqp hq)]
    exact hxy hp fun hq => hp (hqp hq)

/-- The same test on both sides. -/
lemma guard_same {p : Prop} [Decidable p] {ε : Type} {cause : Error} {k : ε → Except Error α}
    {l : ε → Except Error β} {x : Except Error α} {y : Except Error β}
    (hxy : Concur full R x y) :
    Concur full R (if p then (throw cause >>= k) else x) (if p then (throw cause >>= l) else y) :=
  guard rfl id (fun _ => id) fun _ _ => hxy

lemma need {f g : Frame} {m n : Nat} {field : FrameField} {read : m ≤ f.octets.length → α}
    {read' : n ≤ g.octets.length → β} (hmn : m ≤ f.octets.length → n ≤ g.octets.length)
    (hnm : full → n ≤ g.octets.length → m ≤ f.octets.length)
    (hr : ∀ hm hn, R (read hm) (read' hn)) :
    Concur full R (f.need m field read) (g.need n field read') :=
  dite rfl hmn hnm fun hm hn => .ok (hr hm hn)

/-- Overwriting a field of both frames, at a place of its own in each. -/
lemma writeAt {Q : Frame → Frame → Prop} {f g : Frame} {i j : Nat} {field : Octets}
    {name : FrameField}
    (hij : i + field.length ≤ f.octets.length → j + field.length ≤ g.octets.length)
    (hji : full → j + field.length ≤ g.octets.length → i + field.length ≤ f.octets.length)
    (hQ : i + field.length ≤ f.octets.length → ∀ f' g' : Frame,
      f'.octets = Octets.overwrite f.octets i field →
        g'.octets = Octets.overwrite g.octets j field → Q f' g') :
    Concur full Q (f.edited (Frame.writeAt i field name))
      (g.edited (Frame.writeAt j field name)) := by
  rw [Frame.edited_writeAt, Frame.edited_writeAt]
  exact dite rfl hij hji fun hi _ => .ok (hQ hi _ _ rfl rfl)

end Concur

/-! ### Record sequences -/

/-- The octets with zeros behind them, and with none for a full agreement. -/
def Continues (full : Prop) (xs ys : Octets) : Prop :=
  ∃ n, ys = xs ++ List.replicate n 0 ∧ (full → n = 0)

namespace Continues

variable {full : Prop} {xs ys : Octets} {n : Nat}

lemma eq_of_full (h : Continues full xs ys) (hfull : full) : ys = xs := by
  obtain ⟨k, rfl, hk⟩ := h
  rw [hk hfull]
  exact List.append_nil xs

lemma le_length (h : Continues full xs ys) (hn : n ≤ xs.length) : n ≤ ys.length := by
  obtain ⟨k, rfl, -⟩ := h
  rw [List.length_append]
  omega

lemma le_length_of_full (h : Continues full xs ys) (hfull : full) (hn : n ≤ ys.length) :
    n ≤ xs.length := by
  rw [h.eq_of_full hfull] at hn
  exact hn

end Continues

/-! ### Transparent changes -/

namespace Frame

/-- A change that takes a frame `f` to a frame `g` of `Q f g` leaves all fields where readers look
for them, and it still does when a field of both frames is overwritten. -/
structure Transparent (full : Prop) (Q : Frame → Frame → Prop) : Prop where
  destination : ∀ {f g}, Q f g → Concur full Eq f.destination g.destination
  source : ∀ {f g}, Q f g → Concur full Eq f.source g.source
  etherType : ∀ {f g}, Q f g → Concur full Eq f.etherType g.etherType
  header : ∀ {f g}, Q f g → Concur full Eq f.header g.header
  payload : ∀ {f g}, Q f g → Concur full (Continues full) f.payload g.payload
  transactionId : ∀ {f g}, Q f g → Concur full Eq f.transactionId g.transactionId
  tlvOctets : ∀ {f g}, Q f g → Concur full (Continues full) f.tlvOctets g.tlvOctets
  setDestination : ∀ {f g}, Q f g → ∀ m,
    Concur full Q (f.edited (setDestination m)) (g.edited (setDestination m))
  setSource : ∀ {f g}, Q f g → ∀ m,
    Concur full Q (f.edited (setSource m)) (g.edited (setSource m))
  setOpcode : ∀ {f g}, Q f g → ∀ k,
    Concur full Q (f.edited (setOpcode k)) (g.edited (setOpcode k))

namespace Transparent

variable {full : Prop} {Q : Frame → Frame → Prop} (t : Transparent full Q) {f g : Frame}
  (hq : Q f g)

include t hq

lemma isCfm (h : f.isCfm = true) : g.isCfm = true := by
  have htype : f.etherType = .ok etherTypeCfm := eq_some_of_toOption (eq_of_beq h)
  unfold Frame.isCfm
  rw [(t.etherType hq).eq_ok htype]
  exact beq_self_eq_true _

lemma isCfm_of_full (hfull : full) (h : g.isCfm = true) : f.isCfm = true := by
  have htype : g.etherType = .ok etherTypeCfm := eq_some_of_toOption (eq_of_beq h)
  have hc := t.etherType hq
  unfold Frame.isCfm
  rw [htype] at hc
  cases hf : f.etherType with
  | ok n =>
    rw [hf] at hc
    obtain ⟨_, hn, rfl⟩ := hc.exists_ok
    cases hn
    exact beq_self_eq_true _
  | error cause =>
    rw [hf] at hc
    cases hc with
    | gained hn => exact absurd hfull hn

lemma guard_isCfm {α β ε : Type} {R : α → β → Prop} {cause : Error} {k : ε → Except Error α}
    {l : ε → Except Error β} {x : Except Error α} {y : Except Error β}
    (hxy : f.isCfm = true → Concur full R x y) :
    Concur full R (if !f.isCfm then (throw cause >>= k) else x)
      (if !g.isCfm then (throw cause >>= l) else y) := by
  refine .guard rfl (fun hg => ?_) (fun hfull hf => ?_) fun hf _ => hxy (by simpa using hf)
  · rw [Bool.not_eq_true'] at hg ⊢
    exact Bool.eq_false_iff.2 fun hf => Bool.eq_false_iff.1 hg (t.isCfm hq hf)
  · rw [Bool.not_eq_true'] at hf ⊢
    exact Bool.eq_false_iff.2 fun hg => Bool.eq_false_iff.1 hf (t.isCfm_of_full hq hfull hg)

theorem opcode : Concur full Eq f.opcode g.opcode := by
  refine (t.header hq).bind ?_
  rintro h _ rfl
  exact .refl full _

theorem ccm : Concur full Eq (Ccm.parse f) (Ccm.parse g) := by
  unfold Ccm.parse
  refine t.guard_isCfm hq fun _ => (t.header hq).bind ?_
  rintro h _ rfl
  refine .guard_same ((t.payload hq).bind fun xs ys hc => ?_)
  refine .dite rfl hc.le_length hc.le_length_of_full fun hx hy => ?_
  obtain ⟨n, rfl, -⟩ := hc
  have hx70 : 70 ≤ xs.length := hx
  dsimp only
  rw [Octets.read16_append (by omega), Octets.slice_append (by omega),
    Octets.read32_append (by omega)]
  refine .guard_same ((Concur.refl full _).bind ?_)
  rintro maid _ rfl
  refine (t.tlvOctets hq).bind fun us vs hc => ?_
  have hrecords : Concur full Eq (Tlv.readAll us) (Tlv.readAll vs) := by
    refine .of_imp (fun ts hts => ?_) fun hfull => by rw [hc.eq_of_full hfull]
    obtain ⟨k, rfl, -⟩ := hc
    exact Tlv.readAll_append hts _
  refine hrecords.bind ?_
  rintro ts _ rfl
  refine (t.source hq).bind ?_
  rintro source _ rfl
  exact .ok rfl

theorem request : Concur full Eq (Linktrace.parseRequest f) (Linktrace.parseRequest g) := by
  unfold Linktrace.parseRequest
  refine t.guard_isCfm hq fun _ => (t.header hq).bind ?_
  rintro h _ rfl
  refine .guard_same ((t.payload hq).bind fun xs ys hc => ?_)
  refine .dite rfl hc.le_length hc.le_length_of_full fun hx hy => ?_
  obtain ⟨n, rfl, -⟩ := hc
  rw [Octets.read32_append (by omega), Octets.getElem_append (by omega),
    MacAddress.readAt_append (by omega), MacAddress.readAt_append (by omega)]
  exact .ok rfl

theorem matchLtr (own : MacAddress) (id : UInt32) :
    Concur full Eq (Linktrace.matchReply f own id) (Linktrace.matchReply g own id) := by
  unfold Linktrace.matchReply
  refine t.guard_isCfm hq fun _ => (t.destination hq).bind ?_
  rintro destination _ rfl
  refine .guard_same ((t.header hq).bind ?_)
  rintro h _ rfl
  refine .guard_same ((t.payload hq).bind fun xs ys hc => ?_)
  refine .dite rfl hc.le_length hc.le_length_of_full fun hx hy => ?_
  obtain ⟨n, rfl, -⟩ := hc
  dsimp only
  rw [Octets.read32_append (by omega), Octets.getElem_append (by omega),
    Octets.getElem_append (by omega)]
  exact .guard_same (.ok rfl)

lemma matchId (id : UInt32) : Concur full Eq (Loopback.matchId f id) (Loopback.matchId g id) := by
  unfold Loopback.matchId
  refine (t.header hq).bind ?_
  rintro h _ rfl
  refine .guard_same ((t.transactionId hq).bind ?_)
  rintro received _ rfl
  exact .refl full _

theorem matchLbr (id : UInt32) (own : MacAddress) (peer : Option MacAddress) :
    Concur full Eq (Loopback.matchReply f id own peer) (Loopback.matchReply g id own peer) := by
  rw [Loopback.matchReply_eq_match, Loopback.matchReply_eq_match]
  refine t.guard_isCfm hq fun _ => (t.destination hq).bind ?_
  rintro destination _ rfl
  refine .guard_same ?_
  cases peer with
  | none => exact t.matchId hq id
  | some target =>
    refine (t.source hq).bind ?_
    rintro source _ rfl
    exact .guard_same (t.matchId hq id)

/-- The zeros that a short message is filled up with are those behind it. -/
theorem ringAps : Concur full Eq (RingAps.parse f) (RingAps.parse g) := by
  unfold RingAps.parse
  refine t.guard_isCfm hq fun _ => (t.header hq).bind ?_
  rintro h _ rfl
  refine .guard_same ((t.payload hq).bind fun xs ys hc => ?_)
  obtain ⟨n, rfl, -⟩ := hc
  simp only [Octets.fit_append_zeros]
  exact .refl full _

/-- The loopback message and the changed one are answered or refused alike, and the answers differ
as the messages do. -/
theorem answer (own : MacAddress) :
    Concur full Q (f.edited (Loopback.answer own)) (g.edited (Loopback.answer own)) := by
  unfold Loopback.answer
  rw [edited_get, edited_get, edited_ofExcept, edited_ofExcept]
  refine (t.source hq).bind ?_
  rintro source _ rfl
  rw [edited_guard, edited_guard]
  refine .guard_same ?_
  rw [edited_ofExcept, edited_ofExcept]
  refine (t.destination hq).bind ?_
  rintro destination _ rfl
  rw [edited_guard, edited_guard]
  refine .guard_same ?_
  rw [edited_ofExcept, edited_ofExcept]
  refine (t.opcode hq).bind ?_
  rintro k _ rfl
  rw [edited_guard, edited_guard]
  refine .guard_same ?_
  rw [edited_bind, edited_bind]
  refine (t.setDestination hq source).bind fun f' g' hq' => ?_
  rw [edited_bind, edited_bind]
  exact (t.setSource hq' own).bind fun f'' g'' hq'' => t.setOpcode hq'' .lbr

end Transparent

/-- All readers make the same of both frames. -/
structure ReadAlike (f g : Frame) : Prop where
  destination : Alike f.destination g.destination
  source : Alike f.source g.source
  etherType : Alike f.etherType g.etherType
  isCfm : g.isCfm = f.isCfm
  header : Alike f.header g.header
  opcode : Alike f.opcode g.opcode
  payload : Alike f.payload g.payload
  transactionId : Alike f.transactionId g.transactionId
  records : Alike (f.tlvOctets.map Tlv.walk) (g.tlvOctets.map Tlv.walk)
  ccm : Alike (Ccm.parse f) (Ccm.parse g)
  request : Alike (Linktrace.parseRequest f) (Linktrace.parseRequest g)
  loopbackReply : ∀ id own peer,
    Alike (Loopback.matchReply f id own peer) (Loopback.matchReply g id own peer)
  linktraceReply : ∀ own id, Alike (Linktrace.matchReply f own id) (Linktrace.matchReply g own id)
  ringAps : Alike (RingAps.parse f) (RingAps.parse g)

theorem Transparent.readAlike {Q : Frame → Frame → Prop} (t : Transparent True Q) {f g : Frame}
    (hq : Q f g) : ReadAlike f g where
  destination := (t.destination hq).alike
  source := (t.source hq).alike
  etherType := (t.etherType hq).alike
  isCfm := Bool.eq_iff_iff.2 ⟨t.isCfm_of_full hq trivial, t.isCfm hq⟩
  header := (t.header hq).alike
  opcode := (t.opcode hq).alike
  payload := ((t.payload hq).imp fun _ _ hc => (hc.eq_of_full trivial).symm).alike
  transactionId := (t.transactionId hq).alike
  records := ((t.tlvOctets hq).map fun _ _ hc => by rw [hc.eq_of_full trivial]).alike
  ccm := (t.ccm hq).alike
  request := (t.request hq).alike
  loopbackReply id own peer := (t.matchLbr hq id own peer).alike
  linktraceReply own id := (t.matchLtr hq own id).alike
  ringAps := (t.ringAps hq).alike

end Frame
end RingContinuity
