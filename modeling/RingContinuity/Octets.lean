/-!
# Octet strings

Everything on the wire is a list of octets. This module holds the big-endian words, and reading
and overwriting at an offset. A read at an offset takes the proof that it lies inside the string,
so a read outside of it cannot be written down.
-/

namespace RingContinuity

/-- An octet string, in wire order. -/
abbrev Octets := List UInt8

namespace Octets

/-- The two octets of a 16-bit word, most significant first. -/
def be16 (n : UInt16) : Octets := [(n >>> 8).toUInt8, n.toUInt8]

/-- The four octets of a 32-bit word, most significant first. -/
def be32 (n : UInt32) : Octets :=
  [(n >>> 24).toUInt8, (n >>> 16).toUInt8, (n >>> 8).toUInt8, n.toUInt8]

def word16 (hi lo : UInt8) : UInt16 := (hi.toUInt16 <<< 8) ||| lo.toUInt16

def word32 (a b c d : UInt8) : UInt32 :=
  (a.toUInt32 <<< 24) ||| (b.toUInt32 <<< 16) ||| (c.toUInt32 <<< 8) ||| d.toUInt32

def read16 (xs : Octets) (off : Nat) (h : off + 2 ≤ xs.length) : UInt16 :=
  word16 xs[off] xs[off + 1]

def read32 (xs : Octets) (off : Nat) (h : off + 4 ≤ xs.length) : UInt32 :=
  word32 xs[off] xs[off + 1] xs[off + 2] xs[off + 3]

def slice (xs : Octets) (off n : Nat) (_h : off + n ≤ xs.length) : Octets :=
  (xs.drop off).take n

/-- The string with `field` written over the octets from offset `off` on. -/
def overwrite (xs : Octets) (off : Nat) (field : Octets) : Octets :=
  xs.take off ++ field ++ xs.drop (off + field.length)

/-- The string cut or filled with zeros to exactly `n` octets. -/
def fit (xs : Octets) (n : Nat) : Octets :=
  xs.take n ++ List.replicate (n - xs.length) 0

@[simp] theorem length_be16 (n : UInt16) : (be16 n).length = 2 := rfl

@[simp] theorem length_be32 (n : UInt32) : (be32 n).length = 4 := rfl

theorem length_slice (xs : Octets) (off n : Nat) (h : off + n ≤ xs.length) :
    (slice xs off n h).length = n := by
  simp only [slice, List.length_take, List.length_drop]
  omega

theorem length_overwrite {xs : Octets} {off : Nat} {field : Octets}
    (h : off + field.length ≤ xs.length) : (overwrite xs off field).length = xs.length := by
  simp only [overwrite, List.length_append, List.length_take, List.length_drop]
  omega

@[simp] theorem length_fit (xs : Octets) (n : Nat) : (fit xs n).length = n := by
  simp only [fit, List.length_append, List.length_take, List.length_replicate]
  omega

end Octets
end RingContinuity
