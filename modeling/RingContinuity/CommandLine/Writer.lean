import RingContinuity.CommandLine.Setting

/-!
# Writing command lines

The words that ask for a configuration.
-/

namespace RingContinuity.CommandLine

namespace Setting

/-- The word that names a setting; its letter where one is wanted and exists. -/
def word (s : Setting) (asLetter : Bool) : String :=
  match s.short? with
  | some c => if asLetter then String.ofList ['-', c] else "--" ++ s.long
  | none => "--" ++ s.long

/-- The value with which a setting has to be given for a configuration, if there is one. Flags have
the empty value. -/
def valueFor? (s : Setting) (c : Config) : Option String :=
  match s with
  | interface => some c.interface
  | mepId => c.mepId.map toString
  | target => c.remoteMac.map toString
  | ringId => some (toString c.ringId)
  | vlan => some (toString c.vlan)
  | level => some (toString c.level)
  | interval => some (toString c.interval.millis)
  | skips => some (toString c.skips)
  | domain => some c.domainName
  | association => some c.associationName
  | localMac => c.localMac.map toString
  | verbose => if c.verbose then some "" else none
  | linktrace => none
  | help => none

/-- The words that give a setting its value for a configuration. -/
def words (s : Setting) (asLetter : Bool) (c : Config) : List String :=
  match s.valueFor? c with
  | none => []
  | some value => if s.isFlag then [s.word asLetter] else [s.word asLetter, value]

end Setting

/-- The words for some settings in the given order, each with its letter or its name. -/
def wordsFor (settings : List (Setting × Bool)) (c : Config) : List String :=
  settings.flatMap fun (s, asLetter) => s.words asLetter c

end RingContinuity.CommandLine
