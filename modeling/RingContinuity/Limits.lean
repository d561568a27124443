/-!
# Limits of the frame format

The sizes and ranges that the frame format and its configuration share.
-/

namespace RingContinuity

/-- The longest frame in octets. -/
def maxFrameLength : Nat := 1516

/-- The shortest frame that a station puts on the link, in octets. -/
def minFrameLength : Nat := 60

/-- The length of a maintenance association identifier in octets. -/
def maidLength : Nat := 48

/-- The longest maintenance domain name in octets. -/
def maxDomainNameLength : Nat := 43

def maxLevel : UInt8 := 7

def maxVlanId : UInt16 := 4094

def maxMepId : UInt16 := 8191

end RingContinuity
