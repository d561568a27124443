import RingContinuity.Daemon
import RingContinuity.Text.Hex
import RingContinuity.Version

/-!
# The program

Runs the daemon with the standard streams as its link: every line that comes in is a frame in
hexadecimal, an empty line only lets time pass, and every frame that goes out is a line as well.
-/

namespace RingContinuity.Program

open CommandLine

/-- The line of a setting in the list of all of them. -/
def usageLine (s : Setting) : String :=
  let letter := match s.short? with
    | some c => String.ofList ['-', c, ',', ' ']
    | none => "    "
  let value := if s.isFlag then "" else " <value>"
  "  " ++ letter ++ "--" ++ s.long ++ value

def usage : String :=
  "ring-continuity " ++ version ++ "\nusage: ring-continuity --interface <value> [settings]\n" ++
    String.intercalate "\n" (Setting.all.map usageLine)

/-- The octets of a file, if it can be read. -/
def fileOctets (path : String) : IO (Option Octets) := do
  try
    let content ← IO.FS.readBinFile path
    return some content.toList
  catch _ => return none

/-- The interface of a name, if the host has it. -/
def findInterface (name : String) : IO (List NetworkInterface) := do
  let directory := "/sys/class/net/" ++ name
  match ← fileOctets (directory ++ "/ifindex") with
  | none => return []
  | some digits =>
    let text := Text.trim (Utf8.decodeLossy digits)
    let addressFile ← fileOctets (NetworkInterface.addressPath name)
    return [⟨name, (Numeral.decimal? text.toList).getD 0, addressFile⟩]

/-- The host as far as a command line asks for it. Streams need no privilege. -/
def findHost (words : List String) : IO Host := do
  match Arguments.ofWords words with
  | .error _ => return { privileged := true, interfaces := [] }
  | .ok a => return { privileged := true, interfaces := ← findInterface a.interface }

/-- A source of ids that differs from run to run. -/
def randomIds : IO IdSource := do
  let seed ← IO.rand 0 (UInt64.size - 1)
  return { value := fun n => (mixHash (UInt64.ofNat seed) (UInt64.ofNat n)).toUInt32 }

/-- Prints the frames that were sent since the last time. -/
def printSent (s : Daemon.Session) : IO Daemon.Session := do
  let out ← IO.getStdout
  let (s, frames) := s.takeSent
  for xs in frames do
    out.putStrLn (String.ofList xs.hex)
  out.flush
  return s

/-- The frame in a line; a line that is none holds no octets. -/
def lineOctets (line : String) : Octets := (Octets.ofHex? (Text.trim line).toList).getD []

partial def serve (s : Daemon.Session) (time : Nat) : IO Unit := do
  let line ← (← IO.getStdin).getLine
  if line.isEmpty then return
  let now ← IO.monoMsNow
  let s ← printSent ((s.elapse (now - time)).receive [lineOctets line])
  serve s now

/-- Says why the program ends, and with which exit code. -/
def conclude (ending : Daemon.Ending) : IO UInt32 := do
  match ending with
  | .usage .help => IO.println usage
  | .usage _ => IO.eprintln usage
  | .failed _ => ending.report.forM IO.eprintln
  return UInt32.ofNat ending.exitCode

end RingContinuity.Program

open RingContinuity in
def main (words : List String) : IO UInt32 := do
  let host ← Program.findHost words
  let wire : Wire := { verdict := fun _ xs => (Ethernet.verdict xs).mapError .io }
  match Daemon.start words host (← Program.randomIds) wire with
  | .error ending => Program.conclude ending
  | .ok session =>
    let session ← Program.printSent session.begin
    Program.serve session (← IO.monoMsNow)
    return 0
