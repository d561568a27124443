import RingContinuity.Config.Field
import RingContinuity.Json.Writer

/-!
# Writing a configuration

The configuration as a JSON object. Addresses are written as texts in a spelling of the caller's
choice, absent values as `null` and the interval in milliseconds.
-/

namespace RingContinuity.Config

open Json

namespace Field

def write (f : Field) (mac : MacAddress → List Char) (c : Config) : List Char :=
  match f with
  | interface => writeText c.interface.toList
  | localMac => writeNullable (fun m => writeText (mac m)) c.localMac
  | remoteMac => writeNullable (fun m => writeText (mac m)) c.remoteMac
  | vlan => writeNatural c.vlan.toNat
  | level => writeNatural c.level.toNat
  | ringId => writeNatural c.ringId.toNat
  | mepId => writeNullable (fun id => writeNatural id.toNat) c.mepId
  | interval => writeNatural c.interval.millis
  | skips => writeNatural c.skips.toNat
  | domainName => writeText c.domainName.toList
  | associationName => writeText c.associationName.toList
  | verbose => writeBool c.verbose

end Field

/-- An object with some of the fields; it denotes the configuration with `only` these fields. -/
def writeFields (fields : List Field) (mac : MacAddress → List Char) (c : Config) : List Char :=
  writeObject (fields.map fun f => (f.name.toList, f.write mac c))

/-- The object with all fields, addresses in their usual written form. -/
def write (c : Config) : List Char := c.writeFields Field.all MacAddress.text

def toText (c : Config) : String := String.ofList c.write

end RingContinuity.Config
