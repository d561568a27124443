import RingContinuity.Proofs.LoopbackReplies
import RingContinuity.Proofs.Records
import RingContinuity.Proofs.UncheckedReads

/-!
# Unchecked messages

The readers of records, names and messages with reads that stop the machine outside of the octets.
What keeps them inside comes from the octets themselves: each length is tested against what is left
before it is used.
-/

namespace RingContinuity.Trapping

/-! ### Records -/

/-- The octets from `start` to before `stop`, if they are inside the string. -/
def range? (xs : Octets) (start stop : Nat) : Option Octets :=
  if start ≤ stop ∧ stop ≤ xs.length then some ((xs.drop start).take (stop - start)) else none

/-- The record at an offset and the offset behind it, nothing at the end of the sequence. -/
def nextTlv (xs : Octets) (pos : Nat) : Trapping (Option (Tlv × Nat)) :=
  match xs[pos]? with
  | none => throw (.malformed (.tlvOverrun .type pos))
  | some type =>
    if type = Tlv.endType then return none
    else do
      match range? xs (← add pos 1) (← add pos 3) with
      | none => throw (.malformed (.tlvOverrun .length pos))
      | some field =>
        let length := (← word16 field 0 1).toNat
        let start ← add pos 3
        let stop ← add start length
        match range? xs start stop with
        | none => throw (.malformed (.tlvOverrun .value pos))
        | some value => return some (⟨type, value⟩, stop)

section Records

variable {xs : Octets} {pos : Nat}

lemma range?_eq_some {start stop : Nat} (hs : start ≤ stop) (h : stop ≤ xs.length) :
    range? xs start stop = some ((xs.drop start).take (stop - start)) := if_pos ⟨hs, h⟩

lemma range?_eq_none {start stop : Nat} (h : xs.length < stop) : range? xs start stop = none :=
  if_neg fun hr => Nat.not_le.2 h hr.2

/-- Where a walk over a string stands. -/
def cursor (xs : Octets) (pos : Nat) : Tlv.Cursor := ⟨xs.drop pos, pos, false⟩

lemma next_short {type : UInt8} (ht : type ≠ Tlv.endType) {body : Octets} (h : body.length < 2)
    (pos : Nat) : (Tlv.Cursor.mk (type :: body) pos false).next =
      (Tlv.Cursor.mk (type :: body) pos false).overrun .length := by
  rw [Tlv.Cursor.next_of_ne ht]
  match body, h with
  | [], _ => rfl
  | [_], _ => rfl

lemma next_field {type : UInt8} (ht : type ≠ Tlv.endType) {hi lo : UInt8} {n : Nat}
    (hn : (Octets.word16 hi lo).toNat = n) (tail : Octets) (pos : Nat) :
    (Tlv.Cursor.mk (type :: hi :: lo :: tail) pos false).next =
      if n ≤ tail.length then (some (.ok ⟨type, tail.take n⟩), ⟨tail.drop n, pos + 3 + n, false⟩)
      else (Tlv.Cursor.mk (type :: hi :: lo :: tail) pos false).overrun .value := by
  subst hn
  exact Tlv.Cursor.next_of_ne ht _ pos

/-- A step of a walk by offsets is one of `Tlv.Cursor`: both end, both fail alike, or both go on
behind the same record. -/
theorem nextTlv_cases (hl : xs.length ≤ maxFrameLength) (pos : Nat) :
    (nextTlv xs pos = pure none ∧ ∃ c, (cursor xs pos).next = (none, c)) ∨
    (∃ part, nextTlv xs pos = throw (.malformed (.tlvOverrun part pos)) ∧
      (cursor xs pos).next = (cursor xs pos).overrun part) ∨
    ∃ t stop, nextTlv xs pos = pure (some (t, stop)) ∧ pos < stop ∧ stop ≤ xs.length ∧
      (cursor xs pos).next = (some (.ok t), cursor xs stop) := by
  unfold maxFrameLength at hl
  unfold nextTlv cursor
  by_cases hend : xs.length ≤ pos
  · rw [List.getElem?_eq_none hend, List.drop_eq_nil_of_le hend]
    exact .inr (.inl ⟨.type, rfl, rfl⟩)
  have htype : pos < xs.length := Nat.lt_of_not_le hend
  rw [List.getElem?_eq_getElem htype, List.drop_eq_getElem_cons htype]
  dsimp only
  by_cases ht : xs[pos] = Tlv.endType
  · rw [if_pos ht, ht]
    exact .inl ⟨rfl, _, rfl⟩
  rw [if_neg ht, add_eq (lt_offsetLimit (by omega)), pure_bind, add_eq (lt_offsetLimit (by omega)),
    pure_bind]
  by_cases hshort : xs.length < pos + 3
  · rw [range?_eq_none hshort]
    refine .inr (.inl ⟨.length, rfl, next_short ht ?_ pos⟩)
    rw [List.length_drop]
    omega
  -- The length field is inside, and tells where the value is to end.
  have hbody : xs.drop (pos + 1) = xs[pos + 1] :: xs[pos + 2] :: xs.drop (pos + 3) := by
    rw [List.drop_eq_getElem_cons (by omega), List.drop_eq_getElem_cons (by omega)]
  rw [range?_eq_some (by omega) (by omega), hbody]
  dsimp only
  have hfield : word16 ((xs[pos + 1] :: xs[pos + 2] :: xs.drop (pos + 3)).take
      (pos + 3 - (pos + 1))) 0 1 = pure (Octets.word16 xs[pos + 1] xs[pos + 2]) := by
    rw [show pos + 3 - (pos + 1) = 2 by omega]
    rfl
  rw [hfield, pure_bind]
  generalize hn : (Octets.word16 xs[pos + 1] xs[pos + 2]).toNat = n
  have hlt : n < 65536 := hn ▸ UInt16.toNat_lt _
  rw [pure_bind, add_eq (lt_offsetLimit (by omega)), pure_bind]
  rw [next_field ht hn, List.length_drop]
  by_cases hvalue : pos + 3 + n ≤ xs.length
  · rw [range?_eq_some (by omega) hvalue, if_pos (by omega), Nat.add_sub_cancel_left,
      List.drop_drop]
    exact .inr (.inr ⟨_, _, rfl, by omega, hvalue, rfl⟩)
  · rw [range?_eq_none (by omega), if_neg (by omega)]
    exact .inr (.inl ⟨.value, rfl, rfl⟩)

lemma of_bind {α β : Type} {x : Trapping α} {k : α → Trapping β} {b : β}
    (h : (x >>= k) = pure b) : ∃ a, x = pure a ∧ k a = pure b := by
  match x, h with
  | some (.ok a), h => exact ⟨a, rfl, h⟩

lemma of_add {m n k : Nat} (h : add m n = pure k) : k = m + n := by
  unfold add at h
  split at h
  · exact (Except.ok.inj (Option.some.inj h)).symm
  · exact nomatch h

/-- Each step of a walk ends behind the one before. -/
lemma lt_of_nextTlv {t : Tlv} {stop : Nat} (h : nextTlv xs pos = pure (some (t, stop))) :
    xs.length - stop < xs.length - pos := by
  unfold nextTlv at h
  split at h
  · exact nomatch h
  split at h
  · exact nomatch h
  obtain ⟨start, -, h⟩ := of_bind h
  obtain ⟨stop', -, h⟩ := of_bind h
  split at h
  · exact nomatch h
  obtain ⟨n, -, h⟩ := of_bind h
  obtain ⟨value, hvalue, h⟩ := of_bind h
  obtain ⟨behind, hbehind, h⟩ := of_bind h
  split at h
  · exact nomatch h
  · next hrange =>
    cases h
    unfold range? at hrange
    split at hrange
    · have := of_add hvalue
      have := of_add hbehind
      omega
    · exact nomatch hrange

end Records

/-- The records from an offset on. -/
def records (xs : Octets) (pos : Nat) : Trapping (List Tlv) :=
  match _h : (nextTlv xs pos).run with
  | none => trap
  | some (.error cause) => throw cause
  | some (.ok none) => return []
  | some (.ok (some (t, stop))) => do return t :: (← records xs stop)
termination_by xs.length - pos
decreasing_by exact lt_of_nextTlv _h

section Records

variable {xs : Octets} {pos : Nat}

lemma records_eq_match (xs : Octets) (pos : Nat) :
    records xs pos = match (nextTlv xs pos).run with
      | none => trap
      | some (.error cause) => throw cause
      | some (.ok none) => pure []
      | some (.ok (some (t, stop))) => do return t :: (← records xs stop) := by
  rw [records]
  split <;> next h => rw [h]

/-- The walk by offsets finds what `Tlv.Cursor` finds. -/
theorem records_eq (hl : xs.length ≤ maxFrameLength) (pos : Nat) :
    records xs pos = checked ((cursor xs pos).collect.mapM id) := by
  induction hn : xs.length - pos using Nat.strong_induction_on generalizing pos with
  | _ n ih =>
  subst hn
  rcases nextTlv_cases hl pos with
    ⟨hx, c, hc⟩ | ⟨part, hx, hc⟩ | ⟨t, stop, hx, hlt, hle, hc⟩
  · rw [records_eq_match, hx, Tlv.Cursor.collect_of_none hc]
    rfl
  · rw [records_eq_match, hx, Tlv.Cursor.collect_of_some hc]
    rfl
  · have hrest := ih _ (lt_of_nextTlv hx) stop rfl
    rw [records_eq_match, hx, Tlv.Cursor.collect_of_some hc]
    change (records xs stop >>= fun ts => pure (t :: ts)) = _
    rw [hrest, List.mapM_cons]
    exact checked_bind fun _ _ => rfl

end Records

/-! ### Names -/

/-- The domain name of a field, and where the association format stands. -/
def domainName (xs : Octets) (format : UInt8) : Trapping (Octets × Nat) :=
  if format = Maid.noDomain then return ([], 1)
  else do
    let n := (← octet xs 1).toNat
    if format = Maid.domainString ∧ (n < 1 ∨ maxDomainNameLength < n) then
      throw (.malformed (.domainNameLength n))
    let stop ← add 2 n
    if maidLength < (← add stop 2) then throw (.malformed (.domainNameOverflow n))
    return (← range xs 2 stop, stop)

/-- The association format at an offset and the name behind it, cut to the field. -/
def associationName (xs : Octets) (pos : Nat) : Trapping (UInt8 × Octets) := do
  let format ← octet xs pos
  let n := (← octet xs (← add pos 1)).toNat
  let start ← add pos 2
  if format = Maid.associationString ∧ n < 1 then throw (.malformed .emptyAssociationName)
  let stop ← add start (min n (← sub maidLength start))
  return (format, ← range xs start stop)

def maid (xs : Octets) : Trapping Maid := do
  if xs.length < maidLength then throw (.malformed .truncatedMaid)
  let format ← octet xs 0
  let (domain, pos) ← domainName xs format
  let (associationFormat, association) ← associationName xs pos
  return ⟨format, domain, associationFormat, association⟩

section Names

variable {xs : Octets} (h : 48 ≤ xs.length)

lemma domainName_eq (hpos : 0 < xs.length) : domainName xs xs[0] =
    checked ((Maid.decodeDomain xs h).map fun found => (found.1, found.2.val)) := by
  unfold domainName Maid.decodeDomain
  dsimp only
  by_cases hno : xs[0] = Maid.noDomain
  · rw [if_pos hno, if_pos hno]
    rfl
  have hlt : xs[1].toNat < 256 := UInt8.toNat_lt _
  rw [if_neg hno, if_neg hno, octet_eq (by omega), pure_bind]
  by_cases hname : xs[0] = Maid.domainString ∧
      (xs[1].toNat < 1 ∨ maxDomainNameLength < xs[1].toNat)
  · rw [if_pos hname, if_pos hname]
    rfl
  rw [if_neg hname, if_neg hname, add_eq (lt_offsetLimit (by omega)), pure_bind,
    add_eq (lt_offsetLimit (by omega)), pure_bind]
  by_cases hfits : 2 + xs[1].toNat + 2 ≤ 48
  · have htest : ¬ maidLength < 2 + xs[1].toNat + 2 := Nat.not_lt.2 hfits
    rw [if_neg htest, dif_pos hfits, range_eq (by omega) (by omega), Nat.add_sub_cancel_left]
    rfl
  · have htest : maidLength < 2 + xs[1].toNat + 2 := Nat.lt_of_not_le hfits
    rw [if_pos htest, dif_neg hfits]
    rfl

lemma associationName_eq (pos : { pos : Nat // pos + 2 ≤ 48 }) :
    associationName xs pos = checked (Maid.decodeAssociation xs h pos) := by
  have hpos := pos.property
  have hlt : xs[pos.val + 1].toNat < 256 := UInt8.toNat_lt _
  unfold associationName Maid.decodeAssociation
  dsimp only
  rw [octet_eq (by omega), pure_bind, add_eq (lt_offsetLimit (by omega)), pure_bind,
    octet_eq (by omega), pure_bind, add_eq (lt_offsetLimit (by omega)), pure_bind]
  by_cases hname : xs[pos.val] = Maid.associationString ∧ xs[pos.val + 1].toNat < 1
  · rw [if_pos hname, if_pos hname]
    rfl
  rw [if_neg hname, if_neg hname, sub_eq (show pos.val + 2 ≤ maidLength from hpos), pure_bind,
    add_eq (lt_offsetLimit (by unfold maidLength; omega)), pure_bind,
    range_eq (by omega) (by unfold maidLength; omega), Nat.add_sub_cancel_left]
  rfl

theorem maid_eq (xs : Octets) : maid xs = checked (Maid.decode xs) := by
  unfold maid Maid.decode
  by_cases h : 48 ≤ xs.length
  · rw [dif_pos h, if_neg (show ¬ xs.length < maidLength from Nat.not_lt.2 h), octet_eq (by omega),
      pure_bind, domainName_eq h (by omega)]
    cases Maid.decodeDomain xs h with
    | error cause => rfl
    | ok found =>
      change (associationName xs found.2 >>= fun association => _) = _
      rw [associationName_eq h]
      exact checked_bind fun _ _ => rfl
  · rw [dif_neg h, if_pos (show xs.length < maidLength from Nat.lt_of_not_le h)]
    rfl

end Names

/-! ### Messages -/

section Readers

variable (f : Frame)

def ccm : Trapping Ccm := do
  if !(← isCfm f) then throw (.mismatch .notCfm)
  let h ← header f
  if h.opcode ≠ Opcode.ccm.code then throw (.mismatch (.notCcm h.opcode))
  let xs ← payload f
  if xs.length < Ccm.fixedLength then throw (.malformed .truncatedCcm)
  let sequence ← word32 xs
  let mepId ← word16 xs 4 5
  if mepId = 0 ∨ maxMepId < mepId then throw (.malformed (.mepIdRange mepId))
  let maid ← maid (← range xs 6 (6 + maidLength))
  let tlvs ← records (← tlvOctets f) 0
  return {
    source := ← source f
    level := h.level
    flags := h.flags
    sequence
    mepId
    maid
    portStatus := Tlv.lastStatus? Tlv.portStatusType tlvs
    interfaceStatus := Tlv.lastStatus? Tlv.interfaceStatusType tlvs }

def receiveCcm (config : Config) : Trapping Ccm := do
  let vid := ((← vlan? f).map (·.vid)).getD 0
  if vid ≠ config.vlan then throw (.mismatch (.vlan vid config.vlan))
  let ccm ← ccm f
  if some ccm.mepId = config.mepId then throw (.mismatch (.ownMepId ccm.mepId))
  return ccm

/-- Turns a loopback message into the reply to it. -/
def answer (own : MacAddress) : Trapping Frame := do
  let sender ← source f
  if sender.isGroup then throw (.mismatch (.lbmFromGroup sender))
  let addressee ← destination f
  if !(addressee.isCfmGroup || addressee = own) then
    throw (.mismatch (.lbmAddressee addressee own))
  let kind ← opcode f
  if kind ≠ .lbm then throw (.mismatch .notLbm)
  let f ← setDestination f sender
  let f ← setSource f own
  setOpcode f .lbr

def matchId (id : UInt32) : Trapping Unit := do
  let h ← header f
  if h.opcode ≠ Opcode.lbr.code then throw (.mismatch .notLbr)
  let received ← transactionId f
  if received ≠ id then throw (.mismatch (.loopbackId id received))

def matchLbr (id : UInt32) (own : MacAddress) (peer : Option MacAddress) : Trapping Unit := do
  if !(← isCfm f) then throw (.mismatch .notCfm)
  let addressee ← destination f
  if addressee ≠ own then throw (.mismatch (.lbrAddressee addressee own))
  if let some peer := peer then
    let sender ← source f
    if sender ≠ peer then throw (.mismatch (.lbrSource sender peer))
  matchId f id

def request : Trapping Linktrace.Request := do
  if !(← isCfm f) then throw (.mismatch .notCfm)
  let h ← header f
  if h.opcode ≠ Opcode.ltm.code then throw (.mismatch .notLtm)
  let xs ← payload f
  if xs.length < 17 then throw (.malformed .truncatedLtm)
  return {
    level := h.level
    id := ← word32 xs
    ttl := ← octet xs 4
    origin := ← mac (← range xs 5 11)
    target := ← mac (← range xs 11 17) }

def matchLtr (own : MacAddress) (id : UInt32) : Trapping Linktrace.Reply := do
  if !(← isCfm f) then throw (.mismatch .notCfm)
  let addressee ← destination f
  if addressee ≠ own then throw (.mismatch (.ltrAddressee addressee own))
  let h ← header f
  if h.opcode ≠ Opcode.ltr.code then throw (.mismatch .notLtr)
  let xs ← payload f
  if xs.length < 6 then throw (.malformed .truncatedLtr)
  let received ← word32 xs
  if received ≠ id then throw (.mismatch (.linktraceId received id))
  return ⟨← octet xs 4, (← octet xs 5) == RelayAction.hit.code⟩

/-- A string of `size` zeros with the octets copied over the first `n` of them. -/
def zeroFilled (size n : Nat) (xs : Octets) : Trapping Octets :=
  if n ≤ size ∧ xs.length = n then pure (xs ++ List.replicate (size - n) 0) else trap

def ringAps : Trapping RingAps := do
  if !(← isCfm f) then throw (.mismatch .notCfm)
  let h ← header f
  if h.opcode ≠ Opcode.raps.code then throw (.mismatch .notRaps)
  let xs ← payload f
  let n := min xs.length RingAps.size
  let fields ← zeroFilled RingAps.size n (← range xs 0 n)
  let codes ← octet fields 0
  let status ← octet fields 1
  return ⟨codes >>> 4, codes &&& 0x0F, RingStatus.ofOctet status, ← mac (← range fields 2 8)⟩

lemma length_le_of_tlvOctets {f : Frame} {xs : Octets} (h : f.tlvOctets = .ok xs) :
    xs.length ≤ maxFrameLength := by
  obtain ⟨hd, -, h⟩ := ok_of_bind h
  obtain ⟨hn, rfl⟩ := Frame.of_need h
  rw [List.length_drop]
  exact (Nat.sub_le _ _).trans f.length_le

theorem ccm_eq : ccm f = checked (Ccm.parse f) := by
  unfold ccm Ccm.parse
  rw [isCfm_eq, pure_bind]
  refine guard_eq fun _ => ?_
  rw [header_eq]
  refine checked_bind fun h _ => guard_eq fun _ => ?_
  rw [payload_eq]
  refine checked_bind fun xs _ => ?_
  by_cases hl : Ccm.fixedLength ≤ xs.length
  · have h70 : 70 ≤ xs.length := hl
    rw [dif_pos hl, if_neg (Nat.not_lt.2 hl), word32_first (by omega), pure_bind,
      word16_eq (i := 4) (by omega), pure_bind]
    refine guard_eq fun _ => ?_
    rw [range_eq (by omega) (by unfold maidLength; omega), pure_bind, maid_eq]
    refine checked_bind fun _ _ => ?_
    rw [tlvOctets_eq]
    refine checked_bind fun ys hys => ?_
    rw [records_eq (length_le_of_tlvOctets hys) 0]
    refine checked_bind fun _ _ => ?_
    rw [source_eq]
    exact checked_bind fun _ _ => rfl
  · rw [dif_neg hl, if_pos (Nat.lt_of_not_le hl)]
    rfl

theorem receiveCcm_eq (config : Config) :
    receiveCcm f config = checked (Ccm.receive f config) := by
  unfold receiveCcm Ccm.receive
  rw [vlan?_eq, pure_bind]
  refine guard_eq fun _ => ?_
  rw [ccm_eq]
  exact checked_bind fun _ _ => guard_eq fun _ => rfl

theorem answer_eq (own : MacAddress) :
    answer f own = checked (f.edited (Loopback.answer own)) := by
  unfold answer Loopback.answer
  rw [Frame.edited_get, Frame.edited_ofExcept, source_eq]
  refine checked_bind fun sender _ => ?_
  rw [Frame.edited_guard]
  refine guard_eq fun _ => ?_
  rw [Frame.edited_ofExcept, destination_eq]
  refine checked_bind fun addressee _ => ?_
  rw [Frame.edited_guard]
  refine guard_eq fun _ => ?_
  rw [Frame.edited_ofExcept, opcode_eq]
  refine checked_bind fun kind _ => ?_
  rw [Frame.edited_guard]
  refine guard_eq fun _ => ?_
  rw [Frame.edited_bind, setDestination_eq]
  refine checked_bind fun g _ => ?_
  rw [Frame.edited_bind, setSource_eq]
  exact checked_bind fun g' _ => setOpcode_eq g' .lbr

lemma matchId_eq (id : UInt32) : matchId f id = checked (Loopback.matchId f id) := by
  unfold matchId Loopback.matchId
  rw [header_eq]
  refine checked_bind fun h _ => guard_eq fun _ => ?_
  rw [transactionId_eq]
  refine checked_bind fun received _ => ?_
  split <;> rfl

theorem matchLbr_eq (id : UInt32) (own : MacAddress) (peer : Option MacAddress) :
    matchLbr f id own peer = checked (Loopback.matchReply f id own peer) := by
  unfold matchLbr
  rw [Loopback.matchReply_eq_match, isCfm_eq, pure_bind]
  refine guard_eq fun _ => ?_
  rw [destination_eq]
  refine checked_bind fun addressee _ => guard_eq fun _ => ?_
  cases peer with
  | none => exact matchId_eq f id
  | some target =>
    dsimp only
    rw [source_eq]
    exact checked_bind fun sender _ => guard_eq fun _ => matchId_eq f id

theorem request_eq : request f = checked (Linktrace.parseRequest f) := by
  unfold request Linktrace.parseRequest
  rw [isCfm_eq, pure_bind]
  refine guard_eq fun _ => ?_
  rw [header_eq]
  refine checked_bind fun h _ => guard_eq fun _ => ?_
  rw [payload_eq]
  refine checked_bind fun xs _ => ?_
  by_cases hl : 17 ≤ xs.length
  · rw [dif_pos hl, if_neg (Nat.not_lt.2 hl), word32_first (by omega), pure_bind,
      octet_eq (by omega), pure_bind, range_eq (by omega) (by omega), pure_bind,
      mac_eq (i := 5) (by omega), pure_bind, range_eq (by omega) hl, pure_bind,
      mac_eq (i := 11) hl, pure_bind]
    rfl
  · rw [dif_neg hl, if_pos (Nat.lt_of_not_le hl)]
    rfl

theorem matchLtr_eq (own : MacAddress) (id : UInt32) :
    matchLtr f own id = checked (Linktrace.matchReply f own id) := by
  unfold matchLtr Linktrace.matchReply
  rw [isCfm_eq, pure_bind]
  refine guard_eq fun _ => ?_
  rw [destination_eq]
  refine checked_bind fun addressee _ => guard_eq fun _ => ?_
  rw [header_eq]
  refine checked_bind fun h _ => guard_eq fun _ => ?_
  rw [payload_eq]
  refine checked_bind fun xs _ => ?_
  by_cases hl : 6 ≤ xs.length
  · rw [dif_pos hl, if_neg (Nat.not_lt.2 hl), word32_first (by omega), pure_bind]
    refine guard_eq fun _ => ?_
    rw [octet_eq (by omega), pure_bind, octet_eq (by omega), pure_bind]
    rfl
  · rw [dif_neg hl, if_pos (Nat.lt_of_not_le hl)]
    rfl

lemma zeroFilled_eq (xs : Octets) (size : Nat) :
    zeroFilled size (min xs.length size) (xs.take (min xs.length size)) =
      pure (Octets.fit xs size) := by
  have hlen : (xs.take (min xs.length size)).length = min xs.length size := by
    rw [List.length_take]
    omega
  unfold zeroFilled Octets.fit
  rw [if_pos ⟨by omega, hlen⟩]
  rcases Nat.le_total xs.length size with h | h
  · rw [Nat.min_eq_left h, List.take_of_length_le h, List.take_length]
  · rw [Nat.min_eq_right h, Nat.sub_self, Nat.sub_eq_zero_of_le h]

theorem ringAps_eq : ringAps f = checked (RingAps.parse f) := by
  unfold ringAps RingAps.parse
  rw [isCfm_eq, pure_bind]
  refine guard_eq fun _ => ?_
  rw [header_eq]
  refine checked_bind fun h _ => guard_eq fun _ => ?_
  rw [payload_eq]
  refine checked_bind fun xs _ => ?_
  have hlen : (Octets.fit xs RingAps.size).length = 32 := Octets.length_fit ..
  dsimp only
  rw [range_eq (Nat.zero_le _) (by omega), pure_bind]
  change (zeroFilled RingAps.size (min xs.length RingAps.size)
    (xs.take (min xs.length RingAps.size)) >>= _) = _
  rw [zeroFilled_eq, pure_bind, octet_eq (by omega), pure_bind, octet_eq (by omega), pure_bind,
    range_eq (by omega) (by omega), pure_bind, mac_eq (i := 2) (by omega), pure_bind]
  rfl

end Readers

end RingContinuity.Trapping
