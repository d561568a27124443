import RingContinuity.Error

/-!
# Ethernet interfaces

The network interfaces of a host and what they say to a frame that is too long for them.
-/

namespace RingContinuity

/-- A network interface. -/
structure NetworkInterface where
  name : String
  index : Nat
  /-- The content of the file with its address, if there is such a file. -/
  addressFile : Option Octets

namespace NetworkInterface

/-- The path of the file with the address of an interface. -/
def addressPath (name : String) : String := s!"/sys/class/net/{name}/address"

end NetworkInterface

namespace Ethernet

def mtu : Nat := 1500

def isTagged (xs : Octets) : Bool := (xs.drop 12).take 2 == [0x81, 0x00]

/-- The longest frame that an interface takes: two addresses and a type, a tag if there is one, and
the payload. -/
def limit (xs : Octets) : Nat := 14 + (if isTagged xs then 4 else 0) + mtu

def verdict (xs : Octets) : Except SystemError Unit :=
  if limit xs < xs.length then .error .messageTooLong else .ok ()

end Ethernet
end RingContinuity
