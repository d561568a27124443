/-!
# Errors of the operating system

The error numbers that system calls report, and their texts.
-/

namespace RingContinuity

/-- Why an operation of the operating system failed. -/
inductive SystemError
  | number (n : Nat)
  /-- A file that has to be text is not UTF-8. -/
  | notUtf8
  | words (text : String)
  deriving DecidableEq

namespace SystemError

def noSuchFile : SystemError := .number 2
def interrupted : SystemError := .number 4
def wouldBlock : SystemError := .number 11
def noSuchDevice : SystemError := .number 19
def messageTooLong : SystemError := .number 90
def timedOut : SystemError := .number 110

def describe : Nat → String
  | 1 => "Operation not permitted"
  | 2 => "No such file or directory"
  | 4 => "Interrupted system call"
  | 9 => "Bad file descriptor"
  | 11 => "Resource temporarily unavailable"
  | 12 => "Cannot allocate memory"
  | 19 => "No such device"
  | 22 => "Invalid argument"
  | 90 => "Message too long"
  | 99 => "Cannot assign requested address"
  | 100 => "Network is down"
  | 105 => "No buffer space available"
  | 110 => "Connection timed out"
  | n => s!"Unknown error {n}"

/-- The cause in words, with the error number if there is one. -/
def message : SystemError → String
  | .number n => let text := describe n; s!"{text} (os error {n})"
  | .notUtf8 => "stream did not contain valid UTF-8"
  | .words text => text

instance : ToString SystemError := ⟨message⟩

/-- Would-block, timed-out and interrupted reads mean that nothing has arrived yet. -/
def meansNothingYet (e : SystemError) : Bool := e = wouldBlock || e = timedOut || e = interrupted

end SystemError
end RingContinuity
