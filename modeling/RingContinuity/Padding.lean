import RingContinuity.Frame

/-!
# Frames on the link

A link carries whole frames of at least `minFrameLength` octets. Short frames are filled with zeros
before they are sent; what a link delivers at once is one frame.
-/

namespace RingContinuity

/-- The octets with zeros behind them up to the shortest frame length. -/
def padded (xs : Octets) : Octets := xs ++ List.replicate (minFrameLength - xs.length) 0

theorem length_padded (xs : Octets) : (padded xs).length = max minFrameLength xs.length := by
  simp only [padded, List.length_append, List.length_replicate]
  omega

namespace Frame

/-- What a station puts on the link to send a frame. -/
def onLink (f : Frame) : Octets := padded f.octets

/-- Appends a frame, as it goes on the link, to a buffer. -/
def encode (f : Frame) (buffer : Octets) : Octets := buffer ++ f.onLink

/-- Takes everything out of a buffer as one frame. An empty buffer holds none, and octets that are
too many for a frame are taken out all the same. -/
def decode (buffer : Octets) : Except Error (Option Frame) × Octets :=
  if buffer = [] then (.ok none, []) else ((ofOctets buffer).map some, [])

end Frame
end RingContinuity
