import RingContinuity.Proofs.TransparentChanges

/-!
# What accessors look at

An accessor of a frame looks at some octets and at no others. `Frame.Accessor` lists the accessors
with the places of these octets, and `Accessor.congr` says that two frames of the same length that
agree there are the same to the accessor. All places behind the addresses depend on the type field:
an accessor has to look at it to find its place.
-/

namespace RingContinuity

/-! ### Octets at the same places -/

namespace Octets

/-- Where the common header starts: behind two addresses and a type, and four octets further on if
the type is that of a VLAN tag. -/
def headerPlace (xs : Octets) : Nat := if (xs.drop 12).take 2 = [0x81, 0x00] then 18 else 14

lemma le_headerPlace (xs : Octets) : 14 ≤ xs.headerPlace := by
  unfold headerPlace
  split <;> omega

/-- The second string is as long as the first one and has the same octets at `places`. -/
structure SameAt (places : Nat → Prop) (xs ys : Octets) : Prop where
  length : ys.length = xs.length
  octet : ∀ i, places i → ys[i]? = xs[i]?

namespace SameAt

variable {places places' : Nat → Prop} {xs ys : Octets} {off i : Nat}

lemma mono (h : SameAt places xs ys) (hp : ∀ i, places' i → places i) : SameAt places' xs ys :=
  ⟨h.length, fun i hi => h.octet i (hp i hi)⟩

lemma getElem (h : SameAt places xs ys) (hi : places i) (hx : i < xs.length) (hy : i < ys.length) :
    ys[i] = xs[i] := by
  have ho := h.octet i hi
  rw [List.getElem?_eq_getElem hx, List.getElem?_eq_getElem hy] at ho
  exact Option.some.inj ho

lemma read16 (h : SameAt (fun i => off ≤ i ∧ i < off + 2) xs ys) (hx : off + 2 ≤ xs.length)
    (hy : off + 2 ≤ ys.length) : read16 ys off hy = read16 xs off hx := by
  unfold Octets.read16
  rw [h.getElem (by omega) (by omega) (by omega), h.getElem (by omega) (by omega) (by omega)]

lemma read32 (h : SameAt (fun i => off ≤ i ∧ i < off + 4) xs ys) (hx : off + 4 ≤ xs.length)
    (hy : off + 4 ≤ ys.length) : read32 ys off hy = read32 xs off hx := by
  unfold Octets.read32
  rw [h.getElem (by omega) (by omega) (by omega), h.getElem (by omega) (by omega) (by omega),
    h.getElem (by omega) (by omega) (by omega), h.getElem (by omega) (by omega) (by omega)]

lemma readAddress (h : SameAt (fun i => off ≤ i ∧ i < off + 6) xs ys) (hx : off + 6 ≤ xs.length)
    (hy : off + 6 ≤ ys.length) : MacAddress.readAt ys off hy = MacAddress.readAt xs off hx := by
  unfold MacAddress.readAt
  rw [h.getElem (by omega) (by omega) (by omega), h.getElem (by omega) (by omega) (by omega),
    h.getElem (by omega) (by omega) (by omega), h.getElem (by omega) (by omega) (by omega),
    h.getElem (by omega) (by omega) (by omega), h.getElem (by omega) (by omega) (by omega)]

lemma readHeader (h : SameAt (fun i => off ≤ i ∧ i < off + 4) xs ys) (hx : off + 3 < xs.length)
    (hy : off + 3 < ys.length) : CfmHeader.readAt ys off hy = CfmHeader.readAt xs off hx := by
  unfold CfmHeader.readAt
  rw [h.getElem (by omega) (by omega) (by omega), h.getElem (by omega) (by omega) (by omega),
    h.getElem (by omega) (by omega) (by omega), h.getElem (by omega) (by omega) (by omega)]

lemma drop (h : SameAt (fun i => off ≤ i) xs ys) : ys.drop off = xs.drop off := by
  apply List.ext_getElem?
  intro i
  rw [List.getElem?_drop, List.getElem?_drop]
  exact h.octet (off + i) (Nat.le_add_right off i)

lemma headerPlace (h : SameAt (fun i => 12 ≤ i ∧ i < 14) xs ys) :
    headerPlace ys = headerPlace xs := by
  have htype : (ys.drop 12).take 2 = (xs.drop 12).take 2 := by
    apply List.ext_getElem?
    intro i
    by_cases hi : i < 2
    · rw [List.getElem?_take_of_lt hi, List.getElem?_take_of_lt hi, List.getElem?_drop,
        List.getElem?_drop]
      exact h.octet (12 + i) (by omega)
    · rw [List.getElem?_take_eq_none (by omega), List.getElem?_take_eq_none (by omega)]
  unfold Octets.headerPlace
  rw [htype]

end SameAt
end Octets

namespace Frame

/-! ### Accessors -/

/-- The parts of a common header, each with the octet of the header that holds it. -/
inductive HeaderPart : {β : Type} → (CfmHeader → β) → Nat → Prop
  | level : HeaderPart CfmHeader.level 0
  | version : HeaderPart CfmHeader.version 0
  | opcode : HeaderPart CfmHeader.opcode 1
  | flags : HeaderPart CfmHeader.flags 2
  | firstTlvOffset : HeaderPart CfmHeader.firstTlvOffset 3

/-- The accessors of a frame, each with the places of the octets that it looks at. The records start
where the common header says, so that their places depend on an octet of the frame. -/
inductive Accessor : {α : Type} → (Frame → α) → (Octets → Nat → Prop) → Prop
  | length : Accessor Frame.length fun _ _ => False
  | octets : Accessor Frame.octets fun _ _ => True
  | destination : Accessor Frame.destination fun _ i => i < 6
  | source : Accessor Frame.source fun _ i => 6 ≤ i ∧ i < 12
  | isTagged : Accessor Frame.isTagged fun _ i => 12 ≤ i ∧ i < 14
  | vlan : Accessor Frame.vlan? fun xs i => 12 ≤ i ∧ i < min 16 xs.headerPlace
  | vlanId : Accessor Frame.vlanId fun xs i => 12 ≤ i ∧ i < min 16 xs.headerPlace
  | etherType : Accessor Frame.etherType fun xs i => 12 ≤ i ∧ i < xs.headerPlace
  | isCfm : Accessor Frame.isCfm fun xs i => 12 ≤ i ∧ i < xs.headerPlace
  | cfmOffset : Accessor Frame.cfmOffset fun _ i => 12 ≤ i ∧ i < 14
  | header : Accessor Frame.header fun xs i =>
      (12 ≤ i ∧ i < 14) ∨ (xs.headerPlace ≤ i ∧ i < xs.headerPlace + 4)
  | headerPart {β : Type} {part : CfmHeader → β} {k : Nat} (h : HeaderPart part k) :
      Accessor (fun f => f.header.map part) fun xs i =>
        (12 ≤ i ∧ i < 14) ∨ i = xs.headerPlace + k
  | opcode : Accessor Frame.opcode fun xs i => (12 ≤ i ∧ i < 14) ∨ i = xs.headerPlace + 1
  | payloadOffset : Accessor Frame.payloadOffset fun _ i => 12 ≤ i ∧ i < 14
  | payload : Accessor Frame.payload fun xs i => (12 ≤ i ∧ i < 14) ∨ xs.headerPlace + 4 ≤ i
  | transactionId : Accessor Frame.transactionId fun xs i =>
      (12 ≤ i ∧ i < 14) ∨ (xs.headerPlace + 4 ≤ i ∧ i < xs.headerPlace + 8)
  | tlvOctets : Accessor Frame.tlvOctets fun xs i =>
      (12 ≤ i ∧ i < 14) ∨ i = xs.headerPlace + 3 ∨
        xs.headerPlace + 4 + (xs.getD (xs.headerPlace + 3) 0).toNat ≤ i

lemma cfmOffset_eq_headerPlace (f : Frame) : f.cfmOffset = f.octets.headerPlace := by
  have htag : f.isTagged = true ↔ (f.octets.drop 12).take 2 = [0x81, 0x00] := f.isTagged_iff
  unfold cfmOffset Octets.headerPlace
  by_cases h : f.isTagged = true
  · rw [if_pos h, if_pos (htag.1 h)]
  · rw [if_neg h, if_neg fun hp => h (htag.2 hp)]

lemma payloadOffset_eq_headerPlace (f : Frame) : f.payloadOffset = f.octets.headerPlace + 4 := by
  rw [← cfmOffset_eq_headerPlace]
  rfl

lemma headerPlace_of_isTagged {f : Frame} (ht : f.isTagged = true) :
    f.octets.headerPlace = 18 := by
  rw [← cfmOffset_eq_headerPlace]
  exact if_pos ht

/-! ### Readers in terms of their parts -/

lemma need_map {α β : Type} {f : Frame} {n : Nat} {field : FrameField} (k : α → β)
    (read : n ≤ f.octets.length → α) :
    (f.need n field read).map k = f.need n field fun h => k (read h) := by
  unfold need
  split
  · rfl
  · rfl

lemma opcode_eq_bind (f : Frame) :
    f.opcode = (f.header.map CfmHeader.opcode >>= Opcode.ofCode) := by
  unfold opcode
  cases f.header <;> rfl

lemma tlvOctets_eq_bind (f : Frame) :
    f.tlvOctets = (f.header.map CfmHeader.firstTlvOffset >>= fun n =>
      f.need (f.payloadOffset + n.toNat) .firstTlv fun _ =>
        f.octets.drop (f.payloadOffset + n.toNat)) := by
  unfold tlvOctets
  cases f.header <;> rfl

/-! ### Frames that agree where an accessor looks -/

section Congruence

variable {α : Type} {f g : Frame} {off m n : Nat} {field : FrameField} {places : Nat → Prop}

lemma need_congr {read : n ≤ f.octets.length → α} {read' : m ≤ g.octets.length → α}
    (hl : g.octets.length = f.octets.length) (hmn : m = n)
    (hr : ∀ hg hf, read' hg = read hf) : g.need m field read' = f.need n field read := by
  unfold need
  by_cases h : n ≤ f.octets.length
  · rw [dif_pos h, dif_pos (by omega), hr]
  · rw [dif_neg h, dif_neg (by omega), hl]

lemma word16At_congr
    (h : Octets.SameAt (fun i => off ≤ i ∧ i < off + 2) f.octets g.octets) :
    g.word16At off = f.word16At off :=
  need_congr h.length rfl fun hg hf => h.read16 hf hg

lemma word32At_congr
    (h : Octets.SameAt (fun i => off ≤ i ∧ i < off + 4) f.octets g.octets) :
    g.word32At off = f.word32At off :=
  need_congr h.length rfl fun hg hf => h.read32 hf hg

lemma isTagged_congr (h : Octets.SameAt (fun i => 12 ≤ i ∧ i < 14) f.octets g.octets) :
    g.isTagged = f.isTagged := by
  unfold isTagged
  rw [word16At_congr h]

lemma vlan?_congr
    (h : Octets.SameAt (fun i => 12 ≤ i ∧ i < min 16 f.octets.headerPlace) f.octets g.octets) :
    g.vlan? = f.vlan? := by
  have hle := f.octets.le_headerPlace
  unfold vlan?
  rw [isTagged_congr (h.mono fun i hi => by omega)]
  cases ht : f.isTagged with
  | false => rfl
  | true =>
    have hp := headerPlace_of_isTagged ht
    rw [word16At_congr (h.mono fun i hi => by omega)]

lemma etherType_congr
    (h : Octets.SameAt (fun i => 12 ≤ i ∧ i < f.octets.headerPlace) f.octets g.octets) :
    g.etherType = f.etherType := by
  have hle := f.octets.le_headerPlace
  unfold etherType
  rw [isTagged_congr (h.mono fun i hi => by omega)]
  cases ht : f.isTagged with
  | false =>
    rw [if_neg (by decide)]
    exact word16At_congr (h.mono fun i hi => by omega)
  | true =>
    have hp := headerPlace_of_isTagged ht
    rw [if_pos rfl]
    exact word16At_congr (h.mono fun i hi => by omega)

/-- Who looks at the type field and at other places finds the common header where it was. -/
lemma cfmOffset_of_sameAt
    (h : Octets.SameAt (fun i => (12 ≤ i ∧ i < 14) ∨ places i) f.octets g.octets) :
    g.cfmOffset = f.cfmOffset :=
  cfmOffset_congr (isTagged_congr (h.mono fun _ hi => .inl hi))

lemma payloadOffset_of_sameAt
    (h : Octets.SameAt (fun i => (12 ≤ i ∧ i < 14) ∨ places i) f.octets g.octets) :
    g.payloadOffset = f.payloadOffset :=
  congrArg (· + CfmHeader.size) (cfmOffset_of_sameAt h)

lemma header_congr
    (h : Octets.SameAt (fun i => (12 ≤ i ∧ i < 14) ∨
      (f.octets.headerPlace ≤ i ∧ i < f.octets.headerPlace + 4)) f.octets g.octets) :
    g.header = f.header := by
  have hoff := cfmOffset_of_sameAt h
  unfold header
  refine need_congr h.length (by rw [hoff]) fun hg hf => ?_
  simp only [hoff]
  refine Octets.SameAt.readHeader (h.mono fun i hi => .inr ?_) hf _
  rwa [← cfmOffset_eq_headerPlace]

lemma HeaderPart.readAt_congr {β : Type} {part : CfmHeader → β} {k : Nat}
    (hp : HeaderPart part k) {xs ys : Octets} {i : Nat}
    (h : Octets.SameAt (fun j => j = i + k) xs ys) (hx : i + 3 < xs.length)
    (hy : i + 3 < ys.length) :
    part (CfmHeader.readAt ys i hy) = part (CfmHeader.readAt xs i hx) := by
  cases hp with
  | level =>
    have h0 : ys[i] = xs[i] := h.getElem rfl (by omega) (by omega)
    exact congrArg (fun b : UInt8 => b >>> 5) h0
  | version =>
    have h0 : ys[i] = xs[i] := h.getElem rfl (by omega) (by omega)
    exact congrArg (fun b : UInt8 => b &&& 0x1F) h0
  | opcode => exact h.getElem rfl (by omega) (by omega)
  | flags => exact h.getElem rfl (by omega) (by omega)
  | firstTlvOffset => exact h.getElem rfl (by omega) (by omega)

lemma headerPart_congr {β : Type} {part : CfmHeader → β} {k : Nat} (hp : HeaderPart part k)
    (h : Octets.SameAt (fun i => (12 ≤ i ∧ i < 14) ∨ i = f.octets.headerPlace + k)
      f.octets g.octets) :
    g.header.map part = f.header.map part := by
  have hoff := cfmOffset_of_sameAt h
  unfold header
  rw [need_map, need_map]
  refine need_congr h.length (by rw [hoff]) fun hg hf => ?_
  simp only [hoff]
  refine hp.readAt_congr (h.mono fun i hi => .inr ?_) hf _
  rw [hi, cfmOffset_eq_headerPlace]

lemma opcode_congr
    (h : Octets.SameAt (fun i => (12 ≤ i ∧ i < 14) ∨ i = f.octets.headerPlace + 1)
      f.octets g.octets) :
    g.opcode = f.opcode := by
  rw [opcode_eq_bind, opcode_eq_bind, headerPart_congr .opcode h]

lemma payload_congr
    (h : Octets.SameAt (fun i => (12 ≤ i ∧ i < 14) ∨ f.octets.headerPlace + 4 ≤ i)
      f.octets g.octets) :
    g.payload = f.payload := by
  have hoff := payloadOffset_of_sameAt h
  refine need_congr h.length hoff fun hg hf => ?_
  rw [hoff, payloadOffset_eq_headerPlace]
  exact Octets.SameAt.drop (h.mono fun _ hi => .inr hi)

lemma transactionId_congr
    (h : Octets.SameAt (fun i => (12 ≤ i ∧ i < 14) ∨
      (f.octets.headerPlace + 4 ≤ i ∧ i < f.octets.headerPlace + 8)) f.octets g.octets) :
    g.transactionId = f.transactionId := by
  unfold transactionId
  rw [payloadOffset_of_sameAt h, payloadOffset_eq_headerPlace]
  exact word32At_congr (h.mono fun _ hi => .inr hi)

lemma tlvOctets_congr
    (h : Octets.SameAt (fun i => (12 ≤ i ∧ i < 14) ∨ i = f.octets.headerPlace + 3 ∨
      f.octets.headerPlace + 4 + (f.octets.getD (f.octets.headerPlace + 3) 0).toNat ≤ i)
      f.octets g.octets) :
    g.tlvOctets = f.tlvOctets := by
  have hoff := payloadOffset_of_sameAt h
  have hpart : g.header.map CfmHeader.firstTlvOffset = f.header.map CfmHeader.firstTlvOffset :=
    headerPart_congr .firstTlvOffset (h.mono fun _ hi => hi.imp_right .inl)
  rw [tlvOctets_eq_bind, tlvOctets_eq_bind, hpart, hoff]
  -- Without a complete header both fail; with one, both drop what its last octet says.
  unfold header
  rw [need_map]
  by_cases hn : f.cfmOffset + CfmHeader.size ≤ f.octets.length
  · rw [need_of_le hn]
    refine need_congr h.length rfl fun _ _ => Octets.SameAt.drop (h.mono fun i hi => ?_)
    have hlt : f.octets.headerPlace + 3 < f.octets.length := by
      rwa [← cfmOffset_eq_headerPlace]
    refine .inr (.inr ?_)
    rw [List.getD_eq_getElem?_getD, List.getElem?_eq_getElem hlt, Option.getD_some]
    simp only [← cfmOffset_eq_headerPlace]
    exact hi
  · rw [need, dif_neg hn]
    rfl

end Congruence

/-- What an accessor finds depends on the length of the frame and on the octets that it looks at. -/
theorem Accessor.congr {α : Type} {read : Frame → α} {places : Octets → Nat → Prop}
    (ha : Accessor read places) {f g : Frame}
    (h : Octets.SameAt (places f.octets) f.octets g.octets) : read g = read f := by
  cases ha with
  | length => exact h.length
  | octets => exact List.ext_getElem? fun i => h.octet i trivial
  | destination =>
    have h6 : Octets.SameAt (fun i => 0 ≤ i ∧ i < 0 + 6) f.octets g.octets :=
      h.mono fun i hi => by omega
    exact need_congr h.length rfl fun hg hf => h6.readAddress hf hg
  | source => exact need_congr h.length rfl fun hg hf => h.readAddress hf hg
  | isTagged => exact isTagged_congr h
  | vlan => exact vlan?_congr h
  | vlanId => exact congrArg (fun t => (t.map VlanTag.vid).getD 0) (vlan?_congr h)
  | etherType => exact etherType_congr h
  | isCfm => exact congrArg (fun type => type.toOption == some etherTypeCfm) (etherType_congr h)
  | cfmOffset => exact cfmOffset_congr (isTagged_congr h)
  | header => exact header_congr h
  | headerPart hp => exact headerPart_congr hp h
  | opcode => exact opcode_congr h
  | payloadOffset => exact payloadOffset_congr (isTagged_congr h)
  | payload => exact payload_congr h
  | transactionId => exact transactionId_congr h
  | tlvOctets => exact tlvOctets_congr h

end Frame
end RingContinuity
