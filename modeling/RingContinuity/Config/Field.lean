import RingContinuity.Config

/-!
# Fields of a configuration

The names of the fields in a configuration text, and their order.
-/

namespace RingContinuity.Config

/-- A field of a configuration. -/
inductive Field
  | interface | localMac | remoteMac | vlan | level | ringId | mepId | interval | skips
  | domainName | associationName | verbose
  deriving DecidableEq

namespace Field

/-- All fields, in the order in which they are written. -/
def all : List Field :=
  [interface, localMac, remoteMac, vlan, level, ringId, mepId, interval, skips, domainName,
    associationName, verbose]

def name : Field → String
  | interface => "interface"
  | localMac => "local_mac"
  | remoteMac => "remote_mac"
  | vlan => "vlan"
  | level => "md_level"
  | ringId => "ring_id"
  | mepId => "mep_id"
  | interval => "ccm_interval"
  | skips => "ccm_skips"
  | domainName => "md_name"
  | associationName => "ma_name"
  | verbose => "verbose"

def ofName? (s : String) : Option Field := all.find? (·.name == s)

theorem ofName?_name (f : Field) : ofName? f.name = some f := by cases f <;> decide

theorem mem_all (f : Field) : f ∈ all := by cases f <;> decide

/-- The configuration with a field taken over from another one. -/
def copy (f : Field) (source c : Config) : Config :=
  match f with
  | interface => { c with interface := source.interface }
  | localMac => { c with localMac := source.localMac }
  | remoteMac => { c with remoteMac := source.remoteMac }
  | vlan => { c with vlan := source.vlan }
  | level => { c with level := source.level }
  | ringId => { c with ringId := source.ringId }
  | mepId => { c with mepId := source.mepId }
  | interval => { c with interval := source.interval }
  | skips => { c with skips := source.skips }
  | domainName => { c with domainName := source.domainName }
  | associationName => { c with associationName := source.associationName }
  | verbose => { c with verbose := source.verbose }

end Field

/-- The configuration with all but some of its fields at their defaults. -/
def only (c : Config) (fields : List Field) : Config := fields.foldr (fun f d => f.copy c d) {}

end RingContinuity.Config
