import RingContinuity.Proofs.Network
import RingContinuity.Proofs.TransparentChanges

/-!
# Tagged frames

A VLAN tag behind the addresses of a frame without one is a transparent change. The tag moves the
fields behind it by four octets, and so it does with the place where each of them is looked for,
however short the frame is.
-/

namespace RingContinuity

/-! ### Equal octets at different offsets -/

namespace Octets

variable {xs ys : Octets} {i j : Nat}

lemma getElem_of_drop_eq (h : xs.drop i = ys.drop j) (k : Nat) (hx : i + k < xs.length)
    (hy : j + k < ys.length) : xs[i + k] = ys[j + k] := by
  apply Option.some.inj
  rw [← List.getElem?_eq_getElem, ← List.getElem?_eq_getElem, ← List.getElem?_drop,
    ← List.getElem?_drop, h]

lemma read16_of_drop_eq (h : xs.drop i = ys.drop j) (hx : i + 2 ≤ xs.length)
    (hy : j + 2 ≤ ys.length) : read16 xs i hx = read16 ys j hy :=
  congrArg₂ word16 (getElem_of_drop_eq h 0 (by omega) (by omega))
    (getElem_of_drop_eq h 1 (by omega) (by omega))

lemma read32_of_drop_eq (h : xs.drop i = ys.drop j) (hx : i + 4 ≤ xs.length)
    (hy : j + 4 ≤ ys.length) : read32 xs i hx = read32 ys j hy := by
  have h0 : xs[i] = ys[j] := getElem_of_drop_eq h 0 (by omega) (by omega)
  unfold read32
  rw [h0, getElem_of_drop_eq h 1 (by omega) (by omega),
    getElem_of_drop_eq h 2 (by omega) (by omega), getElem_of_drop_eq h 3 (by omega) (by omega)]

lemma take_overwrite {n : Nat} (hn : n ≤ i) (hi : i ≤ xs.length) (field : Octets) :
    (overwrite xs i field).take n = xs.take n := by
  unfold overwrite
  rw [List.append_assoc, List.take_append_of_le_length (by rw [List.length_take]; omega),
    List.take_take, Nat.min_eq_left hn]

/-- The octets with a VLAN tag behind the two addresses. -/
def withTag (xs : Octets) (tci : UInt16) : Octets :=
  xs.take 12 ++ (be16 etherTypeVlan ++ (be16 tci ++ xs.drop 12))

lemma length_withTag (xs : Octets) (tci : UInt16) : (xs.withTag tci).length = xs.length + 4 := by
  unfold withTag
  simp only [List.length_append, List.length_take, List.length_drop, length_be16]
  omega

lemma withTag_append {addresses : Octets} (h : addresses.length = 12) (rest : Octets)
    (tci : UInt16) :
    (addresses ++ rest).withTag tci = addresses ++ (be16 etherTypeVlan ++ (be16 tci ++ rest)) := by
  unfold withTag
  rw [← h, List.take_left, List.drop_left]

end Octets

lemma CfmHeader.readAt_of_drop_eq {xs ys : Octets} {i j : Nat} (h : xs.drop i = ys.drop j)
    (hx : i + 3 < xs.length) (hy : j + 3 < ys.length) : readAt xs i hx = readAt ys j hy := by
  have h0 : xs[i] = ys[j] := Octets.getElem_of_drop_eq h 0 (by omega) (by omega)
  unfold readAt
  rw [h0, Octets.getElem_of_drop_eq h 1 (by omega) (by omega),
    Octets.getElem_of_drop_eq h 2 (by omega) (by omega),
    Octets.getElem_of_drop_eq h 3 (by omega) (by omega)]

namespace Frame

/-! ### Behind the tag -/

/-- The second frame is the first one, which has no VLAN tag, with one behind its addresses. -/
def Tagged (tci : UInt16) (f g : Frame) : Prop :=
  ∃ addresses rest : Octets, addresses.length = 12 ∧ rest.take 2 ≠ Octets.be16 etherTypeVlan ∧
    f.octets = addresses ++ rest ∧
      g.octets = addresses ++ (Octets.be16 etherTypeVlan ++ (Octets.be16 tci ++ rest))

namespace Tagged

variable {tci : UInt16} {f g : Frame}

lemma octets_eq (h : Tagged tci f g) : g.octets = f.octets.withTag tci := by
  obtain ⟨addresses, rest, ha, -, hf, hg⟩ := h
  rw [hf, Octets.withTag_append ha, hg]

lemma length_eq (h : Tagged tci f g) : g.octets.length = f.octets.length + 4 := by
  rw [h.octets_eq, Octets.length_withTag]

lemma le_length (h : Tagged tci f g) : 12 ≤ f.octets.length := by
  obtain ⟨addresses, rest, ha, -, hf, -⟩ := h
  rw [hf, List.length_append]
  omega

lemma isTagged_left (h : Tagged tci f g) : f.isTagged = false := by
  obtain ⟨addresses, rest, ha, hr, hf, -⟩ := h
  refine Bool.eq_false_iff.2 fun ht => hr ?_
  rw [← f.isTagged_iff.1 ht, hf, ← ha, List.drop_left]

lemma isTagged_right (h : Tagged tci f g) : g.isTagged = true := by
  obtain ⟨addresses, rest, ha, -, -, hg⟩ := h
  rw [isTagged_iff, hg, ← ha, List.drop_left]
  rfl

lemma drop_eq (h : Tagged tci f g) (i : Nat) :
    f.octets.drop (12 + i) = g.octets.drop (16 + i) := by
  obtain ⟨addresses, rest, ha, -, hf, hg⟩ := h
  have h16 : g.octets = (addresses ++ (Octets.be16 etherTypeVlan ++ Octets.be16 tci)) ++ rest := by
    rw [hg]
    simp only [List.append_assoc]
  have hl : (addresses ++ (Octets.be16 etherTypeVlan ++ Octets.be16 tci)).length = 16 := by
    simp only [List.length_append, ha, Octets.length_be16]
  rw [hf, h16, ← ha, ← hl, List.drop_length_add_append, List.drop_length_add_append]

lemma cfmOffset_left (h : Tagged tci f g) : f.cfmOffset = 14 := by
  unfold cfmOffset
  rw [h.isTagged_left]
  rfl

lemma cfmOffset_right (h : Tagged tci f g) : g.cfmOffset = 18 := by
  unfold cfmOffset
  rw [h.isTagged_right]
  rfl

lemma address (h : Tagged tci f g) {i : Nat} (hi : i + 6 ≤ 12) (name : FrameField) :
    Concur True Eq (f.need (i + 6) name fun hf => MacAddress.readAt f.octets i hf)
      (g.need (i + 6) name fun hg => MacAddress.readAt g.octets i hg) := by
  have hl := h.length_eq
  have hle := h.le_length
  refine .need (fun _ => by omega) (fun _ _ => by omega) fun _ _ => ?_
  obtain ⟨addresses, rest, ha, -, hf, hg⟩ := h
  simp only [hf, hg]
  rw [MacAddress.readAt_append (by omega), MacAddress.readAt_append (by omega)]

lemma word16At (h : Tagged tci f g) (i : Nat) :
    Concur True Eq (f.word16At (12 + i)) (g.word16At (16 + i)) := by
  have hl := h.length_eq
  exact .need (fun _ => by omega) (fun _ _ => by omega)
    fun _ _ => Octets.read16_of_drop_eq (h.drop_eq i) _ _

lemma word32At (h : Tagged tci f g) (i : Nat) :
    Concur True Eq (f.word32At (12 + i)) (g.word32At (16 + i)) := by
  have hl := h.length_eq
  exact .need (fun _ => by omega) (fun _ _ => by omega)
    fun _ _ => Octets.read32_of_drop_eq (h.drop_eq i) _ _

lemma dropped (h : Tagged tci f g) (i : Nat) (name : FrameField) :
    Concur True (Continues True) (f.need (12 + i) name fun _ => f.octets.drop (12 + i))
      (g.need (16 + i) name fun _ => g.octets.drop (16 + i)) := by
  have hl := h.length_eq
  refine .need (fun _ => by omega) (fun _ _ => by omega) fun _ _ => ⟨0, ?_, fun _ => rfl⟩
  rw [h.drop_eq i]
  exact (List.append_nil _).symm

/-- Overwriting an address. -/
lemma writeAddress (h : Tagged tci f g) {i : Nat} {field : Octets} (hi : i + field.length ≤ 12)
    (name : FrameField) :
    Concur True (Tagged tci) (f.edited (writeAt i field name))
      (g.edited (writeAt i field name)) := by
  have hl := h.length_eq
  have hle := h.le_length
  refine .writeAt (fun _ => by omega) (fun _ _ => by omega) fun _ f' g' hf' hg' => ?_
  obtain ⟨addresses, rest, ha, hr, hf, hg⟩ := h
  have hi' : i + field.length ≤ addresses.length := by omega
  refine ⟨Octets.overwrite addresses i field, rest, ?_, hr, ?_, ?_⟩
  · rw [Octets.length_overwrite hi', ha]
  · rw [hf', hf, Octets.overwrite_append_left hi']
  · rw [hg', hg, Octets.overwrite_append_left hi']

/-- Overwriting a field behind the EtherType. -/
lemma writeBehind (h : Tagged tci f g) (i : Nat) (field : Octets) (name : FrameField) :
    Concur True (Tagged tci) (f.edited (writeAt (14 + i) field name))
      (g.edited (writeAt (18 + i) field name)) := by
  have hl := h.length_eq
  refine .writeAt (fun _ => by omega) (fun _ _ => by omega) fun hle f' g' hf' hg' => ?_
  obtain ⟨addresses, rest, ha, hr, hf, hg⟩ := h
  -- The field begins behind the EtherType, so that it cannot turn it into that of a tag.
  refine ⟨addresses, Octets.overwrite rest (2 + i) field, ha, ?_, ?_, ?_⟩
  · have hlen : 2 + i ≤ rest.length := by
      rw [hf, List.length_append] at hle
      omega
    rwa [Octets.take_overwrite (by omega) hlen]
  · rw [hf', hf, show 14 + i = addresses.length + (2 + i) by omega, Octets.overwrite_append_right]
  · rw [hg', hg, show 18 + i = addresses.length + (4 + (2 + i)) by omega,
      Octets.overwrite_append_right]
    exact congrArg (addresses ++ ·) (Octets.overwrite_append_right
      (Octets.be16 etherTypeVlan ++ Octets.be16 tci) rest (2 + i) field)

lemma header (h : Tagged tci f g) : Concur True Eq f.header g.header := by
  have hl := h.length_eq
  have hoff : g.cfmOffset = f.cfmOffset + 4 := by rw [h.cfmOffset_left, h.cfmOffset_right]
  have hdrop : f.octets.drop f.cfmOffset = g.octets.drop g.cfmOffset := by
    rw [h.cfmOffset_left, h.cfmOffset_right]
    exact h.drop_eq 2
  exact .need (fun _ => by omega) (fun _ _ => by omega)
    fun _ _ => CfmHeader.readAt_of_drop_eq hdrop _ _

lemma payloadOffset_left (h : Tagged tci f g) : f.payloadOffset = 12 + 6 := by
  unfold payloadOffset
  rw [h.cfmOffset_left]
  rfl

lemma payloadOffset_right (h : Tagged tci f g) : g.payloadOffset = 16 + 6 := by
  unfold payloadOffset
  rw [h.cfmOffset_right]
  rfl

end Tagged

theorem transparent_tagged (tci : UInt16) : Transparent True (Tagged tci) where
  destination h := h.address (i := 0) (by omega) _
  source h := h.address (i := 6) (by omega) _
  etherType h := by
    unfold etherType
    rw [h.isTagged_left, h.isTagged_right]
    exact h.word16At 0
  header h := h.header
  payload h := by
    unfold payload
    rw [h.payloadOffset_left, h.payloadOffset_right]
    exact h.dropped 6 _
  transactionId h := by
    unfold transactionId
    rw [h.payloadOffset_left, h.payloadOffset_right]
    exact h.word32At 6
  tlvOctets h := by
    refine h.header.bind ?_
    rintro header _ rfl
    dsimp only
    rw [h.payloadOffset_left, h.payloadOffset_right, Nat.add_assoc, Nat.add_assoc]
    exact h.dropped _ _
  setDestination h m := h.writeAddress (i := 0) (by rw [MacAddress.length_octets]; omega) _
  setSource h m := h.writeAddress (i := 6) (by rw [MacAddress.length_octets]) _
  setOpcode h k := by
    unfold setOpcode
    rw [edited_get, edited_get, edited_bind, edited_bind, h.cfmOffset_left, h.cfmOffset_right]
    exact (h.writeBehind 1 [k.code] .opcode).bind fun f' g' h' => .ok h'

/-! ### Tagging a frame -/

/-- The frame with a VLAN tag behind its addresses. -/
def withTag (f : Frame) (tci : UInt16) (hmax : f.octets.length + 4 ≤ maxFrameLength) : Frame where
  octets := f.octets.withTag tci
  kind := f.kind
  length_le := by rw [Octets.length_withTag]; exact hmax

lemma tagged_withTag {f : Frame} {tci : UInt16} (hmin : 12 ≤ f.octets.length)
    (hmax : f.octets.length + 4 ≤ maxFrameLength)
    (hu : (f.octets.drop 12).take 2 ≠ Octets.be16 etherTypeVlan) :
    Tagged tci f (f.withTag tci hmax) := by
  refine ⟨f.octets.take 12, f.octets.drop 12, ?_, hu, (List.take_append_drop ..).symm, rfl⟩
  rw [List.length_take, Nat.min_eq_left hmin]

lemma Tagged.vlan?_eq {tci : UInt16} {f g : Frame} (h : Tagged tci f g) :
    g.vlan? = some (VlanTag.ofTci tci) := by
  have hle : 14 + 2 ≤ g.octets.length := by
    have := h.length_eq
    have := h.le_length
    omega
  have hr : Octets.read16 g.octets 14 hle = tci := by
    apply Octets.be16_inj
    obtain ⟨addresses, rest, ha, -, -, hg⟩ := h
    rw [← Octets.take_drop_eq_be16, hg, show 14 = addresses.length + 2 by omega,
      List.drop_length_add_append]
    rfl
  unfold vlan? Frame.word16At
  rw [if_pos h.isTagged_right, need_of_le hle, hr]
  rfl

/-- Everything is found in a tagged frame as it was before the frame was tagged. The tag itself is
given back whole, and a loopback message is answered under the tag as it is without. -/
theorem withTag_readAlike (f : Frame) (tci : UInt16) (hmin : 12 ≤ f.octets.length)
    (hmax : f.octets.length + 4 ≤ maxFrameLength)
    (hu : (f.octets.drop 12).take 2 ≠ Octets.be16 etherTypeVlan) :
    let g := f.withTag tci hmax
    g.vlan? = some (VlanTag.ofTci tci) ∧ (VlanTag.ofTci tci).tci = tci ∧ ReadAlike f g ∧
      ∀ own, Concur True (fun reply reply' => reply'.octets = reply.octets.withTag tci)
        (f.edited (Loopback.answer own)) (g.edited (Loopback.answer own)) := by
  have t := transparent_tagged tci
  have h : Tagged tci f (f.withTag tci hmax) := tagged_withTag hmin hmax hu
  exact ⟨h.vlan?_eq, VlanTag.tci_ofTci tci, t.readAlike h,
    fun own => (t.answer h own).imp fun _ _ hreply => hreply.octets_eq⟩

/-- A loopback message of VLAN 100, and the answer to it. -/
theorem withTag_readAlike_lbm :
    let tci : UInt16 := 0x2064
    12 ≤ Pair.lbm.octets.length ∧
    (Pair.lbm.octets.drop 12).take 2 ≠ Octets.be16 etherTypeVlan ∧
    ∃ hmax : Pair.lbm.octets.length + 4 ≤ maxFrameLength,
      (Pair.lbm.withTag tci hmax).vlan? = some ⟨1, false, 100⟩ ∧
      (Pair.lbm.withTag tci hmax).isCfm = true ∧
      ∃ reply,
        (Pair.lbm.withTag tci hmax).edited (Loopback.answer (Pair.address true)) = .ok reply ∧
        reply.octets = Pair.lbr.octets.withTag tci := by
  have hmin : 12 ≤ Pair.lbm.octets.length := by decide
  have hmax : Pair.lbm.octets.length + 4 ≤ maxFrameLength := by decide
  have hu : (Pair.lbm.octets.drop 12).take 2 ≠ Octets.be16 etherTypeVlan := by decide
  obtain ⟨hvlan, -, hread, hanswer⟩ := withTag_readAlike Pair.lbm 0x2064 hmin hmax hu
  have hlbr : Pair.lbm.edited (Loopback.answer (Pair.address true)) =
      .ok { Pair.lbr with kind := some .lbr } := by rfl
  have hreply := hanswer (Pair.address true)
  rw [hlbr] at hreply
  exact ⟨hmin, hu, hmax, hvlan, hread.isCfm.trans (by decide), hreply.exists_ok⟩

end Frame
end RingContinuity
