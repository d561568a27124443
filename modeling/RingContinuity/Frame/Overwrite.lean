import RingContinuity.Frame.Fields

/-!
# Overwriting fields

Writing a field over the one that a frame has. A field that does not lie inside the frame is an
error, and then nothing is written.
-/

namespace RingContinuity.Frame

def writeAt (off : Nat) (field : Octets) (name : FrameField) : Edit Unit := fun f =>
  if h : off + field.length ≤ f.octets.length then
    .ok () { f with
      octets := Octets.overwrite f.octets off field
      length_le := by rw [Octets.length_overwrite h]; exact f.length_le }
  else .error (.malformed (.tooShort f.octets.length name)) f

def setDestination (m : MacAddress) : Edit Unit := writeAt 0 m.octets .destination

def setSource (m : MacAddress) : Edit Unit := writeAt 6 m.octets .source

def setOpcode (k : Opcode) : Edit Unit := do
  let f ← get
  writeAt (f.cfmOffset + 1) [k.code] .opcode
  setKind k

def setFlags (flags : UInt8) : Edit Unit := do
  let f ← get
  writeAt (f.cfmOffset + 2) [flags] .flags

def setTransactionId (id : UInt32) : Edit Unit := do
  let f ← get
  writeAt f.payloadOffset (Octets.be32 id) .transactionId

end RingContinuity.Frame
