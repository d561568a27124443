import RingContinuity.Proofs.FrameBuilding
import RingContinuity.Proofs.ReceivedFrames
import RingContinuity.Proofs.TransparentChanges
import Mathlib.Data.List.GetD

/-!
# Ring protection messages

Writing and reading a ring protection message are inverse to each other, up to the bits that the
format has no room for when it is written first, and up to the bits that mean nothing when it is
read first. A payload that is cut off reads as if zeros followed.
-/

namespace RingContinuity

lemma Octets.fit_append (xs ys : Octets) : Octets.fit (xs ++ ys) xs.length = xs := by
  unfold Octets.fit
  rw [List.take_left, List.length_append,
    show xs.length - (xs.length + ys.length) = 0 by omega]
  exact List.append_nil xs

lemma Octets.getD_fit (xs : Octets) {n i : Nat} (h : i < n) : (fit xs n).getD i 0 = xs.getD i 0 := by
  simp only [fit, List.getD_eq_getElem?_getD, List.getElem?_append, List.length_take,
    List.getElem?_take, List.getElem?_replicate]
  by_cases hi : i < xs.length
  · simp [hi, h]
  · have hr : i - min n xs.length < n - xs.length := by omega
    simp [hi, h, hr]

/-! ### New addresses -/

namespace Frame

/-- A new destination or a new source for a frame. -/
inductive Readdressing
  | destination (m : MacAddress)
  | source (m : MacAddress)

def Readdressing.edit : Readdressing → Edit Unit
  | destination m => setDestination m
  | source m => setSource m

def readdress : List Readdressing → Edit Unit
  | [] => pure ()
  | change :: changes => do
    change.edit
    readdress changes

variable {f : Frame} {d s : MacAddress} {tag : Option VlanTag} {rest : Octets}

lemma edited_readdressing (hf : f.octets = ethernetHeader d s tag ++ rest)
    (change : Readdressing) : ∃ g d' s', f.edited change.edit = .ok g ∧
      g.octets = ethernetHeader d' s' tag ++ rest := by
  cases change with
  | destination m =>
    obtain ⟨g, hg, ho⟩ := setDestination_eq hf m
    exact ⟨g, m, s, edited_eq_ok.2 hg, ho⟩
  | source m =>
    obtain ⟨g, hg, ho⟩ := setSource_eq hf m
    exact ⟨g, d, m, edited_eq_ok.2 hg, ho⟩

/-- Whatever addresses a frame is given, the rest stays. -/
theorem edited_readdress (hf : f.octets = ethernetHeader d s tag ++ rest)
    (changes : List Readdressing) : ∃ g d' s', f.edited (readdress changes) = .ok g ∧
      g.octets = ethernetHeader d' s' tag ++ rest := by
  induction changes generalizing f d s with
  | nil => exact ⟨f, d, s, rfl, hf⟩
  | cons change changes ih =>
    obtain ⟨f', d', s', hf', ho⟩ := edited_readdressing hf change
    obtain ⟨g, d'', s'', hg, hgo⟩ := ih ho
    refine ⟨g, d'', s'', ?_, hgo⟩
    unfold readdress
    rw [edited_bind, hf']
    exact hg

end Frame

/-! ### Written, then read -/

namespace RingAps

lemma requestCode_octet (a b : UInt8) :
    (((a &&& 0x0F) <<< 4) ||| (b &&& 0x0F)) >>> 4 = a &&& 0x0F := by
  apply UInt8.toBitVec_inj.1
  apply BitVec.eq_of_getLsbD_eq
  intro i hi
  interval_cases i <;> simp

lemma and_code (r : RingRequest) : r.code &&& 0x0F = r.code := by cases r <;> decide

lemma ofCode_code (r : RingRequest) : RingRequest.ofCode r.code = .ok r := by cases r <;> rfl

lemma length_encode (p : RingAps) : p.encode.length = size := Octets.length_fit ..

lemma subCode_octet (a b : UInt8) :
    (((a &&& 0x0F) <<< 4) ||| (b &&& 0x0F)) &&& 0x0F = b &&& 0x0F := by
  apply UInt8.toBitVec_inj.1
  apply BitVec.eq_of_getLsbD_eq
  intro i hi
  interval_cases i <;> simp

lemma ofOctet_octet (s : RingStatus) : RingStatus.ofOctet s.octet = s := by
  obtain ⟨blocked, doNotFlush, portReference⟩ := s
  cases blocked <;> cases doNotFlush <;> cases portReference <;> decide

/-- Four bits of both codes survive, and everything else does. -/
theorem decode_encode (p : RingAps) : decode p.encode p.length_encode =
    { p with requestCode := p.requestCode &&& 0x0F, subCode := p.subCode &&& 0x0F } := by
  have hc : (decode p.encode p.length_encode).requestCode = p.requestCode &&& 0x0F :=
    requestCode_octet p.requestCode p.subCode
  have hs : (decode p.encode p.length_encode).subCode = p.subCode &&& 0x0F :=
    subCode_octet p.requestCode p.subCode
  have ht : (decode p.encode p.length_encode).status = p.status := ofOctet_octet p.status
  have hn : (decode p.encode p.length_encode).nodeId = p.nodeId := rfl
  rw [← hc, ← hs, ← ht, ← hn]

theorem decode_encode_ofRequest (r : RingRequest) (nodeId : MacAddress) :
    decode (ofRequest r nodeId).encode (length_encode _) = ofRequest r nodeId := by
  rw [decode_encode]
  unfold ofRequest
  rw [and_code, UInt8.zero_and]

/-- A request in octets: its code in the upper half of the first one, no status bit, the address and
zeros. -/
theorem encode_ofRequest (r : RingRequest) (nodeId : MacAddress) : (ofRequest r nodeId).encode =
    [r.code <<< 4, 0x00] ++ nodeId.octets ++ List.replicate 24 0x00 := by
  have hstatus : RingStatus.clear.octet = 0x00 := by decide
  unfold encode ofRequest
  rw [and_code, UInt8.zero_and, UInt8.or_zero, hstatus]
  rfl

theorem request?_decode_encode (r : RingRequest) (nodeId : MacAddress) :
    (decode (ofRequest r nodeId).encode (length_encode _)).request? = some r := by
  rw [decode_encode_ofRequest]
  unfold request? ofRequest
  rw [ofCode_code]
  rfl

section Layout

variable {f : Frame} {d s : MacAddress} {tag : Option VlanTag} {h : CfmHeader} {p : RingAps}
  {payload : Octets}

/-- The payload decides alone what is read. -/
theorem parse_of_payload
    (hf : f.octets = Frame.ethernetHeader d s tag ++ (h.octets ++ payload)) (hh : h.Fits)
    (ho : h.opcode = Opcode.raps.code) :
    parse f = .ok (decode (Octets.fit payload size) (Octets.length_fit ..)) := by
  unfold parse
  rw [Frame.isCfm_eq hf, Frame.header_eq hf hh, Frame.payload_eq hf]
  simp only [bind, Except.bind, Bool.not_true, Bool.false_eq_true, if_false, ho, ne_eq, not_true]
  rfl

lemma parse_of_layout
    (hf : f.octets = Frame.ethernetHeader d s tag ++ (h.octets ++ (p.encode ++ payload)))
    (hh : h.Fits) (ho : h.opcode = Opcode.raps.code) :
    parse f = .ok (decode p.encode p.length_encode) := by
  have hfit : Octets.fit (p.encode ++ payload) size = p.encode := by
    have := Octets.fit_append p.encode payload
    rwa [length_encode] at this
  rw [parse_of_payload hf hh ho]
  simp only [hfit]

/-- Other messages are not taken for ring protection messages. -/
lemma parse_of_other
    (hf : f.octets = Frame.ethernetHeader d s tag ++ (h.octets ++ payload))
    (hh : h.Fits) (ho : h.opcode ≠ Opcode.raps.code) : parse f = .error (.mismatch .notRaps) := by
  unfold parse
  rw [Frame.isCfm_eq hf, Frame.header_eq hf hh]
  simp only [bind, Except.bind, Bool.not_true, Bool.false_eq_true, if_false, ne_eq, ho,
    not_false_eq_true, if_true]
  rfl

end Layout

/-! ### Read, then written -/

lemma codes_octet (b : UInt8) :
    (((b >>> 4) &&& 0x0F) <<< 4) ||| ((b &&& 0x0F) &&& 0x0F) = b := by
  apply UInt8.toBitVec_inj.1
  apply BitVec.eq_of_getLsbD_eq
  intro i hi
  interval_cases i <;> simp

lemma octet_ofOctet (b : UInt8) : (RingStatus.ofOctet b).octet = b &&& 0xE0 := by
  have h : ∀ n : Fin 256, (RingStatus.ofOctet (.ofFin n)).octet = .ofFin n &&& 0xE0 := by
    decide +kernel
  exact h b.toFin

lemma and_status_eq_iff (b : UInt8) : b &&& 0xE0 = b ↔ b &&& 0x1F = 0 := by
  constructor
  · intro h
    rw [← h, UInt8.and_assoc]
    exact UInt8.and_zero
  · intro h
    have hs : b = (b &&& 0xE0) ||| (b &&& 0x1F) := by
      apply UInt8.toBitVec_inj.1
      apply BitVec.eq_of_getLsbD_eq
      intro i hi
      interval_cases i <;> simp
    rw [h, UInt8.or_zero] at hs
    exact hs.symm

/-- The bits and octets that mean nothing are zero, be they there or not: the lower five bits of the
status, and everything between the node id and the end of the fields. -/
structure Plain (xs : Octets) : Prop where
  status : xs.getD 1 0 &&& 0x1F = 0
  reserved : ∀ i, 8 ≤ i → i < size → xs.getD i 0 = 0

lemma exists_octets {xs : Octets} (h : xs.length = size) : ∃ (a b : UInt8) (m : MacAddress)
    (reserved : Octets), xs = a :: b :: (m.octets ++ reserved) ∧ reserved.length = 24 := by
  have h2 : 1 < xs.length := by
    rw [h]
    decide
  have h8 : 2 + 6 ≤ xs.length := by
    rw [h]
    decide
  refine ⟨xs[0], xs[1], MacAddress.readAt xs 2 h8, xs.drop 8, ?_, ?_⟩
  · rw [← MacAddress.drop_eq_octets h8, ← List.drop_eq_getElem_cons, ← List.drop_eq_getElem_cons]
    rfl
  · rw [List.length_drop, h]
    rfl

lemma plain_iff {a b : UInt8} {m : MacAddress} {reserved : Octets} (hr : reserved.length = 24) :
    Plain (a :: b :: (m.octets ++ reserved)) ↔
      b &&& 0xE0 = b ∧ reserved = List.replicate 24 0 := by
  have hget : ∀ j, (a :: b :: (m.octets ++ reserved)).getD (j + 8) 0 = reserved.getD j 0 :=
    fun _ => rfl
  rw [and_status_eq_iff]
  constructor
  · rintro ⟨hs, hz⟩
    refine ⟨hs, List.eq_replicate_iff.2 ⟨hr, fun x hx => ?_⟩⟩
    obtain ⟨j, hj, rfl⟩ := List.getElem_of_mem hx
    have hj' := hz (j + 8) (by omega) (by unfold size; omega)
    rwa [hget, List.getD_eq_getElem _ _ hj] at hj'
  · rintro ⟨hs, rfl⟩
    refine ⟨hs, fun i h8 hi => ?_⟩
    obtain ⟨j, rfl⟩ := Nat.exists_eq_add_of_le' h8
    rw [hget, List.getD_eq_getElem?_getD, List.getElem?_getD_replicate_default_eq]

/-- Fields that are read are written again as they were, if all that means nothing in them is
zero. -/
theorem encode_decode_eq_iff {xs : Octets} (h : xs.length = size) :
    (decode xs h).encode = xs ↔ Plain xs := by
  obtain ⟨a, b, m, reserved, rfl, hr⟩ := exists_octets h
  have he : (decode (a :: b :: (m.octets ++ reserved)) h).encode =
      a :: (b &&& 0xE0) :: (m.octets ++ List.replicate 24 0) := by
    rw [← octet_ofOctet b]
    nth_rewrite 2 [← codes_octet a]
    rfl
  rw [he, plain_iff hr]
  simp [eq_comm]

lemma plain_fit (payload : Octets) : Plain (Octets.fit payload size) ↔ Plain payload := by
  have hget : ∀ i, i < size → (Octets.fit payload size).getD i 0 = payload.getD i 0 :=
    fun _ => Octets.getD_fit payload
  constructor
  · rintro ⟨hs, hz⟩
    refine ⟨?_, fun i h8 hi => ?_⟩
    · rwa [hget 1 (by decide)] at hs
    · rw [← hget i hi, hz i h8 hi]
  · rintro ⟨hs, hz⟩
    refine ⟨?_, fun i h8 hi => ?_⟩
    · rwa [hget 1 (by decide)]
    · rw [hget i hi, hz i h8 hi]

/-! ### There and back -/

lemma and_fifteen (b : UInt8) : b &&& 0x0F = b % 16 := by
  apply UInt8.toNat_inj.1
  rw [UInt8.toNat_and, UInt8.toNat_mod]
  exact Nat.and_two_pow_sub_one_eq_mod b.toNat 4

/-- Four bits of both codes, and all of the rest. -/
def reduced (p : RingAps) : RingAps :=
  { p with requestCode := p.requestCode % 16, subCode := p.subCode % 16 }

theorem parse_readdressed {config : Config} (hv : config.vlan ≤ maxVlanId) (own : MacAddress)
    (p : RingAps) : ∃ f, build config own p = .ok f ∧
      ∀ changes, ∃ g, f.edited (Frame.readdress changes) = .ok g ∧ parse g = .ok p.reduced := by
  obtain ⟨tag, ht⟩ := Config.tag_ok hv
  obtain ⟨f, hf, hfo⟩ := build_ok own ht p
  refine ⟨f, hf, fun changes => ?_⟩
  obtain ⟨g, d, s, hg, hgo⟩ := Frame.edited_readdress hfo changes
  refine ⟨g, hg, ?_⟩
  rw [parse_of_layout hgo (fits_ownHeader config) rfl, decode_encode, and_fifteen, and_fifteen]
  rfl

section Received

variable {f : Frame} {d s : MacAddress} {tag : Option VlanTag} {h : CfmHeader} {payload : Octets}

/-- There is room for the zeros up to the full length of the fields. -/
lemma exists_extended
    (hf : f.octets = Frame.ethernetHeader d s tag ++ (h.octets ++ payload)) :
    ∃ g : Frame, g.octets = f.octets ++ List.replicate (size - payload.length) 0 := by
  have hl : (f.octets ++ List.replicate (size - payload.length) 0).length ≤ maxFrameLength := by
    have hle := f.length_le
    have heth := Frame.length_ethernetHeader_le d s tag
    have hlen : f.octets.length =
        (Frame.ethernetHeader d s tag).length + (CfmHeader.size + payload.length) := by
      rw [hf, List.length_append, List.length_append, CfmHeader.length_octets]
    rw [List.length_append, List.length_replicate]
    unfold CfmHeader.size at hlen
    unfold size maxFrameLength at *
    omega
  exact ⟨⟨_, none, hl⟩, rfl⟩

lemma parse_extended {g : Frame} {n : Nat}
    (hf : f.octets = Frame.ethernetHeader d s tag ++ (h.octets ++ payload)) (hh : h.Fits)
    (ho : h.opcode = Opcode.raps.code) (hg : g.octets = f.octets ++ List.replicate n 0) :
    parse g = parse f := by
  rw [hf, List.append_assoc, List.append_assoc] at hg
  rw [parse_of_payload hg hh ho, parse_of_payload hf hh ho]
  simp only [Octets.fit_append_zeros]

end Received

lemma build_decode_fit {config : Config} (hv : config.vlan ≤ maxVlanId) (own : MacAddress)
    (payload : Octets) : ∃ g written,
      build config own (decode (Octets.fit payload size) (Octets.length_fit ..)) = .ok g ∧
      g.payload = .ok written ∧
      (written.take size = Octets.fit payload size ↔ Plain payload) := by
  obtain ⟨tag, ht⟩ := Config.tag_ok hv
  obtain ⟨g, hg, ho⟩ := build_ok own ht (decode (Octets.fit payload size) (Octets.length_fit ..))
  refine ⟨g, _, hg, Frame.payload_eq ho, ?_⟩
  rw [List.take_left' (length_encode _), encode_decode_eq_iff, plain_fit]

end RingAps

/-- A ring protection message that is built tells what it was built from, with both codes modulo
sixteen, whatever addresses it is given on its way. A received one is read as if zeros stood behind
it up to the full length of the fields, and what is read of it is written again as it was if and
only if all that means nothing in it is zero. -/
theorem RingAps.there_and_back :
    (∀ (config : Config) (own : MacAddress) (p : RingAps), config.vlan ≤ maxVlanId →
      ∃ f, build config own p = .ok f ∧
        ∀ changes, ∃ g, f.edited (Frame.readdress changes) = .ok g ∧ parse g = .ok p.reduced) ∧
    ∀ (f : Frame) (h : CfmHeader), f.isCfm = true → f.header = .ok h →
      h.opcode = Opcode.raps.code → ∃ payload p, f.payload = .ok payload ∧ parse f = .ok p ∧
        (∃ g : Frame, g.octets = f.octets ++ List.replicate (size - payload.length) 0) ∧
        (∀ g : Frame, g.octets = f.octets ++ List.replicate (size - payload.length) 0 →
          parse g = .ok p) ∧
        ∀ (config : Config) (own : MacAddress), config.vlan ≤ maxVlanId →
          ∃ g written, build config own p = .ok g ∧ g.payload = .ok written ∧
            (written.take size = Octets.fit payload size ↔ Plain payload) := by
  refine ⟨fun config own p hv => parse_readdressed hv own p, fun f h hc hh ho => ?_⟩
  obtain ⟨fits, d, s, tag, payload, hf⟩ := Frame.exists_layout hc hh
  have hp := parse_of_payload hf fits ho
  exact ⟨payload, _, Frame.payload_eq hf, hp, exists_extended hf,
    fun g hg => (parse_extended hf fits ho hg).trans hp,
    fun config own hv => build_decode_fit hv own payload⟩

/-- A tagged ring protection message that is cut off behind the first octet of its node id. -/
def RingAps.cutMessage : Frame where
  octets := Frame.ethernetHeader (MacAddress.ringGroup 7) ⟨2, 0, 0, 0, 0, 9⟩ (some ⟨5, false, 4094⟩) ++
    [0x21, 40, 0, 32, 0xB7, 0xA0, 2]
  kind := none
  length_le := by decide

theorem RingAps.there_and_back_cut :
    ((4094 : UInt16) ≤ maxVlanId ∧ ∃ f,
      build { vlan := 4094 } ⟨2, 0, 0, 0, 0, 9⟩ ⟨0x1B, 0xFF, .clear, .zero⟩ = .ok f ∧
        ∀ changes, ∃ g, f.edited (Frame.readdress changes) = .ok g ∧
          parse g = .ok ⟨0x0B, 0x0F, .clear, .zero⟩) ∧
    cutMessage.isCfm = true ∧ cutMessage.header = .ok ⟨1, 1, 40, 0, 32⟩ ∧
    ∃ g written, build { vlan := 4094 } ⟨2, 0, 0, 0, 0, 9⟩
        ⟨0x0B, 7, ⟨true, false, true⟩, ⟨2, 0, 0, 0, 0, 0⟩⟩ = .ok g ∧
      g.payload = .ok written ∧
        written.take size = [0xB7, 0xA0, 2] ++ List.replicate 29 0 := by
  have hc : cutMessage.isCfm = true := by decide
  have hh : cutMessage.header = .ok ⟨1, 1, 40, 0, 32⟩ := by decide
  refine ⟨⟨by decide, there_and_back.1 { vlan := 4094 } _ _ (by decide)⟩, hc, hh, ?_⟩
  obtain ⟨payload, p, hpay, hp, -, -, hbuild⟩ := there_and_back.2 cutMessage _ hc hh rfl
  obtain rfl : [0xB7, 0xA0, 2] = payload := Except.ok.inj (by rw [← hpay]; decide)
  obtain rfl : ⟨0x0B, 7, ⟨true, false, true⟩, ⟨2, 0, 0, 0, 0, 0⟩⟩ = p :=
    Except.ok.inj (by rw [← hp]; decide)
  obtain ⟨g, written, hg, hw, hiff⟩ := hbuild { vlan := 4094 } ⟨2, 0, 0, 0, 0, 9⟩ (by decide)
  refine ⟨g, written, hg, hw, hiff.2 ⟨by decide, ?_⟩⟩
  intro i h8 _
  exact List.getD_eq_default _ _ (show 3 ≤ i by omega)

end RingContinuity
