import RingContinuity.Config
import RingContinuity.MacAddress.Reader

/-!
# Command line settings

What can be set on the command line: the names of the settings, which of them take a value, and what
the values mean.
-/

namespace RingContinuity.CommandLine

/-- Something that the command line can set. -/
inductive Setting
  | interface | mepId | target | ringId | vlan | level | interval | skips | domain | association
  | verbose | localMac | linktrace | help
  deriving DecidableEq

namespace Setting

def all : List Setting :=
  [interface, mepId, target, ringId, vlan, level, interval, skips, domain, association, verbose,
    localMac, linktrace, help]

def long : Setting → String
  | interface => "interface"
  | mepId => "mep-id"
  | target => "target"
  | ringId => "ring-id"
  | vlan => "vlan"
  | level => "md-level"
  | interval => "ccm-interval"
  | skips => "ccm-skips"
  | domain => "domain"
  | association => "association"
  | verbose => "verbose"
  | localMac => "local-mac"
  | linktrace => "linktrace"
  | help => "help"

def short? : Setting → Option Char
  | interface => some 'i'
  | mepId => some 'm'
  | target => some 't'
  | ringId => some 'r'
  | vlan => some 'v'
  | level => some 'l'
  | interval => some 's'
  | skips => some 'S'
  | domain => some 'd'
  | association => some 'a'
  | verbose => some 'V'
  | localMac => none
  | linktrace => none
  | help => some 'h'

/-- Flags stand alone; all other settings take a value. -/
def isFlag : Setting → Bool
  | verbose => true
  | help => true
  | _ => false

def ofLong? (name : List Char) : Option Setting := all.find? (·.long.toList == name)

def ofShort? (c : Char) : Option Setting := all.find? (·.short? == some c)

theorem ofLong?_long (s : Setting) : ofLong? s.long.toList = some s := by cases s <;> decide

theorem ofShort?_of_short? {s : Setting} {c : Char} (h : s.short? = some c) :
    ofShort? c = some s := by
  cases s <;> simp only [short?, Option.some.injEq, reduceCtorEq] at h <;> subst h <;> decide

end Setting

/-- What the command line asks for, with the defaults of the settings that it leaves out. -/
structure Arguments where
  /-- Has to be given. -/
  interface : String := ""
  mepId : Option UInt16 := none
  target : Option MacAddress := none
  ringId : UInt8 := 2
  vlan : UInt16 := 0
  level : UInt8 := 0
  /-- The interval between continuity checks in milliseconds. -/
  millis : UInt64 := 1000
  skips : UInt32 := 0
  domain : String := "HCL"
  association : String := "HCL_ERPS"
  verbose : Bool := false
  localMac : Option MacAddress := none
  /-- The station to which the path is traced at startup. -/
  linktrace : Option MacAddress := none
  deriving DecidableEq

namespace Arguments

/-- The configuration that was asked for. Only the interval may be none of those that there are. -/
def toConfig (a : Arguments) : Except Error Config := do
  let interval ← CcmInterval.ofMillis a.millis.toNat
  return {
    interface := a.interface
    localMac := a.localMac
    remoteMac := a.target
    vlan := a.vlan
    level := a.level
    ringId := a.ringId
    mepId := a.mepId
    interval
    skips := a.skips
    domainName := a.domain
    associationName := a.association
    verbose := a.verbose }

/-- The configuration that was asked for, unless a check rules it out. -/
def checkedConfig (a : Arguments) : Except Error Config := do
  let config ← a.toConfig
  config.validate
  return config

/-- A number below a limit, with an optional sign; the only negative one is minus zero. -/
def signedBelow? (limit : Nat) (cs : List Char) : Option Nat :=
  match cs with
  | '-' :: ds => (Numeral.digits? Numeral.decimalDigit? 10 ds).filter (· = 0)
  | cs => (Numeral.decimal? cs).filter (· < limit)

/-- A number below a limit, with an optional plus sign. -/
def unsignedBelow? (limit : Nat) (cs : List Char) : Option Nat :=
  (Numeral.decimal? cs).filter (· < limit)

/-- The arguments with a setting changed to a value, if the value is one for it. -/
def set? (a : Arguments) (s : Setting) (value : List Char) : Option Arguments :=
  match s with
  | .interface => some { a with interface := String.ofList value }
  | .mepId => (signedBelow? UInt16.size value).map fun n =>
    { a with mepId := some (UInt16.ofNat n) }
  | .target => (MacAddress.read? value).map fun m => { a with target := some m }
  | .ringId => (signedBelow? UInt8.size value).map fun n => { a with ringId := UInt8.ofNat n }
  | .vlan => (signedBelow? UInt16.size value).map fun n => { a with vlan := UInt16.ofNat n }
  | .level => (signedBelow? UInt8.size value).map fun n => { a with level := UInt8.ofNat n }
  | .interval => (unsignedBelow? UInt64.size value).map fun n => { a with millis := UInt64.ofNat n }
  | .skips => (signedBelow? UInt32.size value).map fun n => { a with skips := UInt32.ofNat n }
  | .domain => some { a with domain := String.ofList value }
  | .association => some { a with association := String.ofList value }
  | .localMac => (MacAddress.read? value).map fun m => { a with localMac := some m }
  | .linktrace => (MacAddress.read? value).map fun m => { a with linktrace := some m }
  | .verbose => some { a with verbose := true }
  | .help => some a

end Arguments
end RingContinuity.CommandLine
