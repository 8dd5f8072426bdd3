/-!
# Signals

The signals that processes send each other, by number and name.
-/

namespace ArtifactRelease.Shell.Signals

def names : List String :=
  ["HUP", "INT", "QUIT", "ILL", "TRAP", "ABRT", "BUS", "FPE", "KILL", "USR1", "SEGV", "USR2",
    "PIPE", "ALRM", "TERM", "16", "CHLD", "CONT", "STOP", "TSTP", "TTIN", "TTOU", "URG", "XCPU",
    "XFSZ",
    "VTALRM", "PROF", "WINCH", "IO", "PWR", "SYS", "32", "33", "RTMIN"]
    ++ (List.range 15).map (fun step => s!"RTMIN+{step + 1}")
    ++ (List.range 14).map (fun step => s!"RTMAX-{14 - step}")
    ++ ["RTMAX"]

def kill : Nat := 9

def terminate : Nat := 15

/-- The signal that tells of the end of a process to the one that has started it. -/
def childEnded : Nat := 17

def name? (number : Nat) : Option String :=
  if number = 0 then some "EXIT" else names[number - 1]?

/-- The number of a signal given by number or, in either case, by name. -/
def number? (text : String) : Option Nat :=
  if !text.isEmpty && text.toList.all Char.isDigit then
    text.toNat?.filter (· ≤ 64)
  else
    let wanted := String.ofList (text.toList.map Char.toUpper)
    if wanted = "EXIT" then some 0 else (names.findIdx? (· = wanted)).map (· + 1)

/-- The number of a signal that can be sent; the end of a shell is none. -/
def sendable? (text : String) : Option Nat :=
  (number? text).filter fun number => 0 < number || text.toList.all Char.isDigit

/-- Whether a signal does nothing to a process that takes no notice of it. -/
def isHarmless (number : Nat) : Bool :=
  (name? number).any (· ∈ ["EXIT", "CHLD", "CONT", "URG", "WINCH"])

/-- Whether a process cannot take notice of a signal. -/
def isForced (number : Nat) : Bool :=
  (name? number).any (· ∈ ["KILL", "STOP"])

/-- How the end of a process by a signal is reported; some ends are not. -/
def report? (number : Nat) : Option String :=
  match name? number with
  | some "HUP" => some "Hangup"
  | some "QUIT" => some "Quit"
  | some "ILL" => some "Illegal instruction"
  | some "TRAP" => some "Trace/breakpoint trap"
  | some "ABRT" => some "Aborted"
  | some "BUS" => some "Bus error"
  | some "FPE" => some "Floating point exception"
  | some "KILL" => some "Killed"
  | some "USR1" => some "User defined signal 1"
  | some "SEGV" => some "Segmentation fault"
  | some "USR2" => some "User defined signal 2"
  | some "ALRM" => some "Alarm clock"
  | some "TERM" => some "Terminated"
  | some "VTALRM" => some "Virtual timer expired"
  | some "PROF" => some "Profiling timer expired"
  | some "XCPU" => some "CPU time limit exceeded"
  | some "XFSZ" => some "File size limit exceeded"
  | some "SYS" => some "Bad system call"
  | _ => none

end ArtifactRelease.Shell.Signals
