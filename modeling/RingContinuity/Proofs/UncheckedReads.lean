import RingContinuity.MacAddress.Reader
import RingContinuity.Proofs.ReceivedFrames

/-!
# Unchecked reads

A machine reads octets by their offsets, and it stops if an offset leads out of a string or is too
large for it. The readers are written down once more with such reads, behind the tests of the length
that are to keep them inside. They never stop, and they find what the readers of `Frame` find.
-/

namespace RingContinuity

/-- A computation on octets, which may fail and may also stop the machine. -/
abbrev Trapping (α : Type) := ExceptT Error Option α

/-- The machine computes offsets with at least 32 bits. -/
def offsetLimit : Nat := 2 ^ 32

lemma lt_offsetLimit {n : Nat} (h : n ≤ 2 ^ 20) : n < offsetLimit :=
  Nat.lt_of_le_of_lt h (by decide)

namespace Trapping

variable {α β : Type}

def trap : Trapping α := ExceptT.mk none

/-- What does not stop the machine. -/
def checked (x : Except Error α) : Trapping α := ExceptT.mk (some x)

/-- Goes on with the failure of a computation as with any other result of it. -/
def attempt (x : Trapping α) : Trapping (Except Error α) := ExceptT.mk (Option.map .ok x.run)

/-! ### Reads -/

def octet (xs : Octets) (i : Nat) : Trapping UInt8 :=
  match xs[i]? with
  | some b => pure b
  | none => trap

/-- The octets from `start` to before `stop`. -/
def range (xs : Octets) (start stop : Nat) : Trapping Octets :=
  if start ≤ stop ∧ stop ≤ xs.length then pure ((xs.drop start).take (stop - start)) else trap

def suffix (xs : Octets) (start : Nat) : Trapping Octets :=
  if start ≤ xs.length then pure (xs.drop start) else trap

def add (m n : Nat) : Trapping Nat := if m + n < offsetLimit then pure (m + n) else trap

def sub (m n : Nat) : Trapping Nat := if n ≤ m then pure (m - n) else trap

def word16 (xs : Octets) (i j : Nat) : Trapping UInt16 := do
  let hi ← octet xs i
  let lo ← octet xs j
  return Octets.word16 hi lo

/-- The word in the first four octets. -/
def word32 (xs : Octets) : Trapping UInt32 := do
  let a ← octet xs 0
  let b ← octet xs 1
  let c ← octet xs 2
  let d ← octet xs 3
  return Octets.word32 a b c d

/-- The octets as a string of exactly `n` octets, which they are copied to. -/
def copy (n : Nat) (xs : Octets) : Trapping Octets := if xs.length = n then pure xs else trap

def mac (xs : Octets) : Trapping MacAddress := checked (MacAddress.ofOctets xs)

section Reads

variable {xs : Octets} {i j : Nat}

lemma octet_eq (h : i < xs.length) : octet xs i = pure xs[i] := by
  unfold octet
  rw [List.getElem?_eq_getElem h]

lemma range_eq (hs : i ≤ j) (h : j ≤ xs.length) :
    range xs i j = pure ((xs.drop i).take (j - i)) := if_pos ⟨hs, h⟩

lemma suffix_eq (h : i ≤ xs.length) : suffix xs i = pure (xs.drop i) := if_pos h

lemma add_eq (h : i + j < offsetLimit) : add i j = pure (i + j) := if_pos h

lemma sub_eq (h : j ≤ i) : sub i j = pure (i - j) := if_pos h

lemma copy_eq (h : xs.length = i) : copy i xs = pure xs := if_pos h

lemma word16_eq (h : i + 2 ≤ xs.length) : word16 xs i (i + 1) = pure (Octets.read16 xs i h) := by
  unfold word16
  rw [octet_eq (by omega), pure_bind, octet_eq (by omega), pure_bind]
  rfl

lemma word32_first (h : 4 ≤ xs.length) : word32 xs = pure (Octets.read32 xs 0 h) := by
  unfold word32
  rw [octet_eq (by omega), octet_eq (by omega), octet_eq (by omega), octet_eq (by omega)]
  rfl

lemma word32_eq (h : i + 4 ≤ xs.length) :
    word32 ((xs.drop i).take 4) = pure (Octets.read32 xs i h) := by
  have hlen : ((xs.drop i).take 4).length = 4 := by
    rw [List.length_take, List.length_drop]
    omega
  rw [word32_first (by omega)]
  unfold Octets.read32
  simp only [List.getElem_take, List.getElem_drop]
  rfl

lemma mac_eq (h : i + 6 ≤ xs.length) :
    mac ((xs.drop i).take 6) = pure (MacAddress.readAt xs i h) := by
  unfold mac
  rw [MacAddress.drop_eq_octets h]
  rfl

end Reads

/-! ### Computations that do not stop -/

@[simp] lemma checked_ok (a : α) : checked (.ok a) = (pure a : Trapping α) := rfl

@[simp] lemma attempt_checked (x : Except Error α) : attempt (checked x) = pure x := rfl

lemma checked_bind {x : Except Error α} {k : α → Trapping β} {k' : α → Except Error β}
    (h : ∀ a, x = .ok a → k a = checked (k' a)) : (checked x >>= k) = checked (x >>= k') := by
  cases x with
  | error cause => rfl
  | ok a => exact h a rfl

/-- A test that the computation fails at if `p` holds. -/
lemma guard_eq {p : Prop} [Decidable p] {cause : Error} {k : α → Trapping β}
    {k' : α → Except Error β} {rest : Trapping β} {rest' : Except Error β}
    (h : ¬ p → rest = checked rest') :
    (if p then (throw cause >>= k) else rest) =
      checked (if p then (throw cause >>= k') else rest') := by
  by_cases hp : p
  · rw [if_pos hp, if_pos hp]
    rfl
  · rw [if_neg hp, if_neg hp, h hp]

/-! ### The fields of a frame -/

section Fields

variable (f : Frame)

/-- The test of the length that comes before a read. -/
def require (n : Nat) (field : FrameField) : Trapping Unit :=
  if f.octets.length < n then throw (.malformed (.tooShort f.octets.length field)) else pure ()

def destination : Trapping MacAddress := do
  require f 6 .destination
  mac (← range f.octets 0 6)

def source : Trapping MacAddress := do
  require f 12 .source
  mac (← range f.octets 6 12)

def word16At (off : Nat) : Trapping UInt16 := do
  require f (← add off 2) .word16
  word16 f.octets off (← add off 1)

def word32At (off : Nat) : Trapping UInt32 := do
  require f (← add off 4) .word32
  word32 (← copy 4 (← range f.octets off (← add off 4)))

def isTagged : Trapping Bool := do
  let type ← attempt (word16At f 12)
  return type.toOption == some etherTypeVlan

def vlan? : Trapping (Option VlanTag) := do
  if !(← isTagged f) then return none
  let tci ← attempt (word16At f 14)
  return tci.toOption.map VlanTag.ofTci

def etherType : Trapping UInt16 := do
  if ← isTagged f then word16At f 16 else word16At f 12

def isCfm : Trapping Bool := do
  let type ← attempt (etherType f)
  return type.toOption == some etherTypeCfm

def cfmOffset : Trapping Nat := do
  if ← isTagged f then add 14 4 else return 14

/-- The common header at the start of a string. -/
def commonHeader (xs : Octets) : Trapping CfmHeader := do
  if xs.length < CfmHeader.size then throw (.malformed .truncatedHeader)
  let first ← octet xs 0
  return ⟨first >>> 5, first &&& 0x1F, ← octet xs 1, ← octet xs 2, ← octet xs 3⟩

def header : Trapping CfmHeader := do
  let off ← cfmOffset f
  require f (← add off CfmHeader.size) .header
  commonHeader (← suffix f.octets off)

def opcode : Trapping Opcode := do
  let h ← header f
  checked (Opcode.ofCode h.opcode)

def payloadOffset : Trapping Nat := do add (← cfmOffset f) CfmHeader.size

def payload : Trapping Octets := do
  let off ← payloadOffset f
  require f off .payload
  suffix f.octets off

def transactionId : Trapping UInt32 := do word32At f (← payloadOffset f)

def tlvOctets : Trapping Octets := do
  let h ← header f
  let off ← add (← payloadOffset f) h.firstTlvOffset.toNat
  require f off .firstTlv
  suffix f.octets off

end Fields

section Fields

variable {f : Frame}

/-- What a test of the length keeps inside the frame is what `Frame.need` allows. -/
lemma require_bind {n : Nat} {field : FrameField} {k : Unit → Trapping α}
    {read : n ≤ f.octets.length → α} (h : ∀ hn, k () = pure (read hn)) :
    (require f n field >>= k) = checked (f.need n field read) := by
  unfold require Frame.need
  by_cases hn : n ≤ f.octets.length
  · rw [if_neg (Nat.not_lt.2 hn), dif_pos hn]
    exact h hn
  · rw [if_pos (Nat.lt_of_not_le hn), dif_neg hn]
    rfl

variable (f)

theorem destination_eq : destination f = checked f.destination := by
  refine require_bind fun hn => ?_
  rw [range_eq (by omega) hn, pure_bind]
  exact mac_eq (i := 0) hn

theorem source_eq : source f = checked f.source := by
  refine require_bind fun hn => ?_
  rw [range_eq (by omega) hn, pure_bind]
  exact mac_eq (i := 6) hn

theorem word16At_eq {off : Nat} (h : off + 2 < offsetLimit) :
    word16At f off = checked (f.word16At off) := by
  unfold word16At
  rw [add_eq h, pure_bind]
  refine require_bind fun hn => ?_
  rw [add_eq (by omega), pure_bind, word16_eq hn]

theorem word32At_eq {off : Nat} (h : off + 4 < offsetLimit) :
    word32At f off = checked (f.word32At off) := by
  unfold word32At
  rw [add_eq h, pure_bind]
  refine require_bind fun hn => ?_
  have hlen : ((f.octets.drop off).take 4).length = 4 := by
    rw [List.length_take, List.length_drop]
    omega
  rw [pure_bind, range_eq (by omega) hn, pure_bind, Nat.add_sub_cancel_left, copy_eq hlen,
    pure_bind]
  exact word32_eq hn

theorem isTagged_eq : isTagged f = pure f.isTagged := by
  unfold isTagged
  rw [word16At_eq f (by decide), attempt_checked, pure_bind]
  rfl

theorem vlan?_eq : vlan? f = pure f.vlan? := by
  unfold vlan? Frame.vlan?
  rw [isTagged_eq, pure_bind]
  cases f.isTagged with
  | false => rfl
  | true =>
    rw [word16At_eq f (by decide), attempt_checked]
    rfl

theorem etherType_eq : etherType f = checked f.etherType := by
  unfold etherType Frame.etherType
  rw [isTagged_eq, pure_bind]
  cases f.isTagged with
  | false => exact word16At_eq f (by decide)
  | true => exact word16At_eq f (by decide)

theorem isCfm_eq : isCfm f = pure f.isCfm := by
  unfold isCfm
  rw [etherType_eq, attempt_checked, pure_bind]
  rfl

theorem cfmOffset_eq : cfmOffset f = pure f.cfmOffset := by
  unfold cfmOffset Frame.cfmOffset
  rw [isTagged_eq, pure_bind]
  cases f.isTagged with
  | false => rfl
  | true => exact add_eq (show 14 + 4 < offsetLimit by decide)

lemma cfmOffset_le : f.cfmOffset ≤ 18 := by
  unfold Frame.cfmOffset
  split <;> decide

lemma commonHeader_eq {xs : Octets} {off : Nat} (h : off + 3 < xs.length) :
    commonHeader (xs.drop off) = pure (CfmHeader.readAt xs off h) := by
  have hlen : (xs.drop off).length = xs.length - off := List.length_drop
  unfold commonHeader
  rw [if_neg (by rw [hlen]; unfold CfmHeader.size; omega), octet_eq (by omega), octet_eq (by omega),
    octet_eq (by omega), octet_eq (by omega)]
  simp only [pure_bind, List.getElem_drop]
  rfl

theorem header_eq : header f = checked f.header := by
  have hoff := cfmOffset_le f
  unfold header
  rw [cfmOffset_eq, pure_bind, add_eq (lt_offsetLimit (by unfold CfmHeader.size; omega)), pure_bind]
  refine require_bind fun hn => ?_
  unfold CfmHeader.size at hn
  rw [suffix_eq (by omega), pure_bind]
  exact commonHeader_eq hn

theorem opcode_eq : opcode f = checked f.opcode := by
  unfold opcode
  rw [header_eq]
  exact checked_bind fun _ _ => rfl

lemma payloadOffset_le : f.payloadOffset ≤ 22 := by
  have hoff := cfmOffset_le f
  unfold Frame.payloadOffset CfmHeader.size
  omega

theorem payloadOffset_eq : payloadOffset f = pure f.payloadOffset := by
  have hoff := payloadOffset_le f
  unfold payloadOffset
  rw [cfmOffset_eq, pure_bind]
  exact add_eq (lt_offsetLimit (hoff.trans (by decide)))

theorem payload_eq : payload f = checked f.payload := by
  unfold payload
  rw [payloadOffset_eq, pure_bind]
  exact require_bind fun hn => suffix_eq hn

theorem transactionId_eq : transactionId f = checked f.transactionId := by
  have hoff := payloadOffset_le f
  unfold transactionId
  rw [payloadOffset_eq, pure_bind]
  exact word32At_eq f (lt_offsetLimit (by omega))

theorem tlvOctets_eq : tlvOctets f = checked f.tlvOctets := by
  have hoff := payloadOffset_le f
  unfold tlvOctets
  rw [header_eq]
  refine checked_bind fun h _ => ?_
  have hfirst : h.firstTlvOffset.toNat < 256 := h.firstTlvOffset.toNat_lt
  rw [payloadOffset_eq, pure_bind, add_eq (lt_offsetLimit (by omega)), pure_bind]
  exact require_bind fun hn => suffix_eq hn

end Fields

/-! ### Overwriting a field -/

section Overwriting

variable (f : Frame)

/-- Copies a string over the octets from `start` to before `stop`, which have to be as many. -/
def overwrite (start stop : Nat) (xs : Octets) : Trapping Frame :=
  if h : start ≤ stop ∧ stop ≤ f.octets.length ∧ xs.length = stop - start then
    pure { f with
      octets := Octets.overwrite f.octets start xs
      length_le := by rw [Octets.length_overwrite (by omega)]; exact f.length_le }
  else trap

def setDestination (m : MacAddress) : Trapping Frame := do
  require f 6 .destination
  overwrite f 0 6 m.octets

def setSource (m : MacAddress) : Trapping Frame := do
  require f 12 .source
  overwrite f 6 12 m.octets

def setOpcode (k : Opcode) : Trapping Frame := do
  let off ← add (← cfmOffset f) 1
  let stop ← add off 1
  require f stop .opcode
  let f ← overwrite f off stop [k.code]
  return { f with kind := some k }

lemma require_overwrite {start stop : Nat} {xs : Octets} (h : start + xs.length = stop)
    (field : FrameField) : (require f stop field >>= fun _ => overwrite f start stop xs) =
      checked (f.edited (Frame.writeAt start xs field)) := by
  subst h
  unfold require overwrite Frame.edited EStateM.run Frame.writeAt
  by_cases hn : start + xs.length ≤ f.octets.length
  · rw [if_neg (Nat.not_lt.2 hn), pure_bind, dif_pos ⟨by omega, hn, by omega⟩, dif_pos hn]
    rfl
  · rw [if_pos (Nat.lt_of_not_le hn), dif_neg hn]
    rfl

theorem setDestination_eq (m : MacAddress) :
    setDestination f m = checked (f.edited (Frame.setDestination m)) :=
  require_overwrite f (Nat.zero_add 6) .destination

theorem setSource_eq (m : MacAddress) :
    setSource f m = checked (f.edited (Frame.setSource m)) :=
  require_overwrite f (show 6 + m.octets.length = 12 from rfl) .source

theorem setOpcode_eq (k : Opcode) :
    setOpcode f k = checked (f.edited (Frame.setOpcode k)) := by
  have hoff := cfmOffset_le f
  have hstop : f.cfmOffset + 1 + [k.code].length = f.cfmOffset + 1 + 1 := rfl
  have hw := require_overwrite f hstop .opcode
  have he : f.edited (Frame.setOpcode k) =
      (f.edited (Frame.writeAt (f.cfmOffset + 1) [k.code] .opcode) >>= fun g =>
        g.edited (Frame.setKind k)) := Frame.edited_bind f _ _
  unfold setOpcode
  rw [cfmOffset_eq, pure_bind, add_eq (lt_offsetLimit (by omega)), pure_bind,
    add_eq (lt_offsetLimit (by omega)), pure_bind, ← bind_assoc, hw, he]
  exact checked_bind fun _ _ => rfl

end Overwriting

end Trapping
end RingContinuity
