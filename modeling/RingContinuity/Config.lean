import RingContinuity.CcmInterval
import RingContinuity.VlanTag

/-!
# Configuration of a station

What a station is told once at startup, the values it assumes where it is told nothing, and the
check that rules out every value with which it would put a broken frame on the link.
-/

namespace RingContinuity

/-- The configuration of a station. -/
structure Config where
  interface : String := ""
  /-- The station's own address; that of the interface if absent. -/
  localMac : Option MacAddress := none
  /-- The target of loopback messages, which are sent only if it is present. -/
  remoteMac : Option MacAddress := none
  vlan : UInt16 := 0
  level : UInt8 := 0
  /-- The ring id, last octet of the ring protection group address. -/
  ringId : UInt8 := 2
  /-- The maintenance end point id; continuity checks are sent only if it is present. -/
  mepId : Option UInt16 := none
  interval : CcmInterval := .sec1
  skips : UInt32 := 0
  domainName : String := "HCL"
  associationName : String := "HCL_ERPS"
  verbose : Bool := false
  deriving DecidableEq

namespace Config

instance : Inhabited Config := ⟨{}⟩

def ensure (p : Prop) [Decidable p] (cause : Misconfiguration) : Except Error Unit :=
  if p then .ok () else .error (.config cause)

/-- Checks every field that would otherwise make a broken frame. The first fault wins, in this
order: level, VLAN id, end point id, domain name, both names together, loopback target. -/
def validate (c : Config) : Except Error Unit := do
  ensure (c.level ≤ maxLevel) (.level c.level)
  ensure (c.vlan ≤ maxVlanId) (.vlan c.vlan)
  match c.mepId with
  | some id => ensure (1 ≤ id ∧ id ≤ maxMepId) (.mepId id)
  | none => pure ()
  let domain := c.domainName.utf8ByteSize
  let association := c.associationName.utf8ByteSize
  ensure (1 ≤ domain ∧ domain ≤ maxDomainNameLength) (.domainNameLength domain)
  ensure (1 ≤ association ∧ domain + association ≤ maidLength - 4) .namesTooLong
  match c.remoteMac with
  | some target => ensure (target.isGroup = false) (.groupTarget target)
  | none => pure ()

/-- The VLAN id of the tag that frames carry, if they carry one. -/
def taggedVlan (c : Config) : Option UInt16 := if c.vlan = 0 then none else some c.vlan

def tag (c : Config) : Except Error (Option VlanTag) :=
  match c.taggedVlan with
  | none => .ok none
  | some vid => (VlanTag.ofVid vid).map some

end Config
end RingContinuity
