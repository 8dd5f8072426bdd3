import ArtifactRelease.Child.Execution

/-!
# Scripted children

A script says what comes of commands without running any: the first entry that fits a command
answers it.  An entry may be limited to a number of answers.  A command that no entry fits
succeeds silently. A script can also stand in for programs that are really started, with output,
status and all.
-/

namespace ArtifactRelease.Child

namespace Script

structure Entry where
  /-- The whole command line. -/
  line : Option String := none
  /-- What the command line starts with. -/
  beginning : Option String := none
  stdout : String := ""
  stderr : String := ""
  code : Option Int := none
  notStarted : Option String := none
  brokenPipe : Option String := none
  /-- How many more commands the entry answers, if not all. -/
  times : Option Nat := none
  deriving Repr, DecidableEq

namespace Entry

def describes (entry : Entry) (command : Command) : Bool :=
  entry.line.all (· = command.line)
    && entry.beginning.all (fun start => start.toList.isPrefixOf command.line.toList)

/-- Whether the entry answers a command now. -/
def fits (entry : Entry) (command : Command) : Bool :=
  entry.describes command && entry.times ≠ some 0

def used (entry : Entry) : Entry :=
  { entry with times := entry.times.map (· - 1) }

def outcome (entry : Entry) (command : Command) : Outcome :=
  match entry.notStarted, entry.brokenPipe, entry.code with
  | some reason, _, _ => .error (.notStarted command.program reason)
  | none, some reason, _ => .error (.brokenPipe command.program reason)
  | none, none, some code => .error (.unsuccessful command.program code entry.stderr)
  | none, none, none => .ok (if command.captures then entry.stdout else "")

def events (entry : Entry) : List Event :=
  let code := (entry.code.getD 0).fmod 256
  outputEvents (Text.encode entry.stdout.toList) (Text.encode entry.stderr.toList)
    (.exited code.toNat)

end Entry

end Script

/-- Entries in the order in which they are tried. -/
abbrev Script := List Script.Entry

namespace Script

/-- Answers a command and marks the entry that answered it. -/
def answer : Script → Command → Outcome × Script
  | [], _ => (.ok "", [])
  | entry :: later, command =>
    if entry.fits command then (entry.outcome command, entry.used :: later)
    else
      let (outcome, later) := answer later command
      (outcome, entry :: later)

end Script

def noSuchFile : String := "No such file or directory (os error 2)"

def notADirectory : String := "Not a directory (os error 20)"

/-- Why a command cannot even be handed to the operating system. -/
def malformed? (command : Command) : Option String :=
  let texts := command.program :: (command.directory.toList ++ command.arguments)
  if texts.any fun text => text.toList.any (·.toNat = 0) then
    some "nul byte found in provided data"
  else none

/-- Starts a command when only some programs are there, and these follow the script, each entry as
often as it is called for. -/
def Script.launch (script : Script) (available : List String) (command : Command) : Launch :=
  match malformed? command with
  | some reason => .error reason
  | none =>
    if command.program ∈ available then
      match script.find? (·.describes command) with
      | some entry => .ok entry.events
      | none => .ok (outputEvents [] [] (.exited 0))
    else .error noSuchFile

end ArtifactRelease.Child
