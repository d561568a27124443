import RingContinuity.Error

/-!
# TLV records

A message ends in a sequence of records, each a nonzero type octet, a 16-bit length and a value,
closed by a single zero octet. `Tlv.Cursor.next` reads one record and `Tlv.walk` all of them;
`Tlv.octets` and `Tlv.sequence` write them.
-/

namespace RingContinuity

/-- A record: its type and its value. -/
structure Tlv where
  type : UInt8
  value : Octets
  deriving DecidableEq

namespace Tlv

def endType : UInt8 := 0
def senderIdType : UInt8 := 1
def portStatusType : UInt8 := 2
def interfaceStatusType : UInt8 := 4

/-- The first octet of the value, which is all that a status record carries. -/
def firstOctet? (t : Tlv) : Option UInt8 := t.value.head?

/-- The octets of a record whose value is shorter than 65536 octets. -/
def octets (t : Tlv) : Octets := t.type :: (Octets.be16 (UInt16.ofNat t.value.length) ++ t.value)

/-- The octets of a sequence of records and of the end that closes it. -/
def sequence (ts : List Tlv) : Octets := ts.flatMap octets ++ [endType]

/-- A place in a record sequence: the octets still to read, the offset at which they start, and
whether the walk is over. -/
structure Cursor where
  rest : Octets
  offset : Nat
  done : Bool
  deriving DecidableEq

namespace Cursor

def start (xs : Octets) : Cursor := ⟨xs, 0, false⟩

/-- The error of a record that runs past the end, after which the walk is over. -/
def overrun (c : Cursor) (part : TlvPart) : Option (Except Error Tlv) × Cursor :=
  (some (.error (.malformed (.tlvOverrun part c.offset))), { c with done := true })

/-- Reads one record. The walk is over after the end of the sequence, which is no record, and after
a record that runs past the end of the octets. -/
def next (c : Cursor) : Option (Except Error Tlv) × Cursor :=
  if c.done then (none, c)
  else match c.rest with
    | [] => c.overrun .type
    | type :: body =>
      if type = endType then (none, { c with done := true })
      else match body with
        | hi :: lo :: tail =>
          let length := (Octets.word16 hi lo).toNat
          if length ≤ tail.length then
            (some (.ok ⟨type, tail.take length⟩), ⟨tail.drop length, c.offset + 3 + length, false⟩)
          else c.overrun .value
        | _ => c.overrun .length

/-- What is left to read, with a mark for a walk that is not over. -/
def measure (c : Cursor) : Nat := 2 * c.rest.length + (if c.done then 0 else 1)

theorem measure_next_lt {c c' : Cursor} {r : Except Error Tlv} (h : c.next = (some r, c')) :
    c'.measure < c.measure := by
  obtain ⟨rest, offset, done⟩ := c
  cases done with
  | true => simp [next] at h
  | false =>
    match rest, h with
    | [], h =>
      simp only [next, Bool.false_eq_true, if_false, overrun, Prod.mk.injEq] at h
      simp [← h.2, measure]
    | type :: body, h =>
      by_cases ht : type = endType
      · simp [next, ht] at h
      · match body, h with
        | [], h =>
          simp only [next, Bool.false_eq_true, ht, overrun, if_false, Prod.mk.injEq] at h
          simp [← h.2, measure]
        | [_], h =>
          simp only [next, Bool.false_eq_true, ht, overrun, if_false, Prod.mk.injEq] at h
          simp [← h.2, measure]
        | hi :: lo :: tail, h =>
          by_cases hl : (Octets.word16 hi lo).toNat ≤ tail.length
          · simp only [next, Bool.false_eq_true, ht, hl, if_false, if_true, Prod.mk.injEq] at h
            simp [← h.2, measure]
            omega
          · simp only [next, Bool.false_eq_true, ht, hl, overrun, if_false, Prod.mk.injEq] at h
            simp [← h.2, measure]

def collect (c : Cursor) : List (Except Error Tlv) :=
  match _h : c.next with
  | (some r, c') => r :: collect c'
  | (none, _) => []
termination_by c.measure
decreasing_by exact measure_next_lt _h

def exhaust (c : Cursor) : Cursor :=
  match _h : c.next with
  | (some _, c') => exhaust c'
  | (none, c') => c'
termination_by c.measure
decreasing_by exact measure_next_lt _h

end Cursor

/-- Everything that a walk over an octet string yields: records, and at most one error, as the last
item. -/
def walk (xs : Octets) : List (Except Error Tlv) := (Cursor.start xs).collect

/-- The records of a sequence that is well-formed up to its end. -/
def readAll (xs : Octets) : Except Error (List Tlv) := (walk xs).mapM id

/-- The first octet of the last record of a type; nothing if there is no such record or if it is
empty. -/
def lastStatus? (type : UInt8) (ts : List Tlv) : Option UInt8 :=
  (ts.filter (·.type = type)).getLast?.bind firstOctet?

end Tlv

/-- The values of a port status record. -/
inductive PortStatus
  | blocked | up
  deriving DecidableEq

namespace PortStatus

def code : PortStatus → UInt8
  | blocked => 1
  | up => 2

def ofCode (octet : UInt8) : Except Error PortStatus :=
  match octet.toNat with
  | 1 => .ok blocked
  | 2 => .ok up
  | _ => .error (.malformed (.unknownPortStatus octet))

end PortStatus

/-- The values of an interface status record. -/
inductive InterfaceStatus
  | up | down | testing | unknown | dormant | notPresent | lowerLayerDown
  deriving DecidableEq

namespace InterfaceStatus

def code : InterfaceStatus → UInt8
  | up => 1
  | down => 2
  | testing => 3
  | unknown => 4
  | dormant => 5
  | notPresent => 6
  | lowerLayerDown => 7

def ofCode (octet : UInt8) : Except Error InterfaceStatus :=
  match octet.toNat with
  | 1 => .ok up
  | 2 => .ok down
  | 3 => .ok testing
  | 4 => .ok unknown
  | 5 => .ok dormant
  | 6 => .ok notPresent
  | 7 => .ok lowerLayerDown
  | _ => .error (.malformed (.unknownInterfaceStatus octet))

end InterfaceStatus
end RingContinuity
