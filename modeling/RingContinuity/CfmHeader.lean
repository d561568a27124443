import RingContinuity.Error

/-!
# The common header

The four octets with which every continuity and ring protection message starts.
-/

namespace RingContinuity

/-- The common header of a message. -/
structure CfmHeader where
  level : UInt8
  version : UInt8
  opcode : UInt8
  flags : UInt8
  firstTlvOffset : UInt8
  deriving DecidableEq

namespace CfmHeader

/-- The length of the header in octets. -/
def size : Nat := 4

/-- The four octets: level and version share the first, with three and five bits. -/
def octets (h : CfmHeader) : Octets :=
  [((h.level &&& 0x07) <<< 5) ||| (h.version &&& 0x1F), h.opcode, h.flags, h.firstTlvOffset]

/-- The header in the four octets from offset `off` on. -/
def readAt (xs : Octets) (off : Nat) (h : off + 3 < xs.length) : CfmHeader :=
  ⟨xs[off] >>> 5, xs[off] &&& 0x1F, xs[off + 1], xs[off + 2], xs[off + 3]⟩

def parse (xs : Octets) : Except Error CfmHeader :=
  if h : 0 + size ≤ xs.length then .ok (readAt xs 0 h) else .error (.malformed .truncatedHeader)

@[simp] theorem length_octets (h : CfmHeader) : h.octets.length = size := rfl

end CfmHeader
end RingContinuity
