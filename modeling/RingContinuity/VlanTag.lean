import RingContinuity.Error

/-!
# VLAN tags

The tag control information of an 802.1Q tag: a priority, a drop eligible bit and a VLAN id.
-/

namespace RingContinuity

/-- The control information of a VLAN tag. -/
structure VlanTag where
  priority : UInt8
  dropEligible : Bool
  vid : UInt16
  deriving DecidableEq

namespace VlanTag

/-- A tag of priority zero; the VLAN id has to be one that a frame may carry. -/
def ofVid (vid : UInt16) : Except Error VlanTag :=
  if vid = 0 ∨ maxVlanId < vid then .error (.config (.vlanId vid)) else .ok ⟨0, false, vid⟩

/-- The tag with another priority, of which three bits count. -/
def withPriority (t : VlanTag) (priority : UInt8) : VlanTag :=
  { t with priority := priority &&& 0x07 }

/-- The tag control information: three bits of priority, the drop eligible bit, twelve of id. -/
def tci (t : VlanTag) : UInt16 :=
  ((t.priority &&& 0x07).toUInt16 <<< 13) ||| (if t.dropEligible then 0x1000 else 0) |||
    (t.vid &&& 0x0FFF)

def ofTci (n : UInt16) : VlanTag := ⟨(n >>> 13).toUInt8, n &&& 0x1000 != 0, n &&& 0x0FFF⟩

end VlanTag
end RingContinuity
