import ArtifactRelease.Child.Script
import ArtifactRelease.Shell.Interpreter

/-!
# Programs that are always there

Children for which no process is started: a shell with a script and the small programs beside it.
What they do comes out as the events of a child, and what cannot be started fails with the reason
that an operating system gives.
-/

namespace ArtifactRelease.Shell

open ArtifactRelease.Child (Launch Status outputEvents malformed? noSuchFile notADirectory)

def permissionDenied : String := "Permission denied (os error 13)"

def nameTooLong : String := "File name too long (os error 36)"

def argumentsTooLong : String := "Argument list too long (os error 7)"

def maxArgument : Nat := 131071

/-- The reason that an operating system gives for a problem with a path. -/
def PathProblem.reason : PathProblem → String
  | missing => noSuchFile
  | notDirectory => notADirectory
  | nameTooLong => Shell.nameTooLong

/-- Finds a program: a name with a slash is a path, any other is searched for. -/
def launchable (directory : Path) (name : String) : Except String String :=
  let start : Path := if '/' ∈ name.toList then directory else ["usr", "bin"]
  match FileSystem.find {} start name with
  | .ok (.program program) => .ok program
  | .ok .missing => .error noSuchFile
  | .ok _ => .error permissionDenied
  | .error problem => .error problem.reason

def startDirectory (directory : Option String) : Except String Path :=
  match directory with
  | none => .ok []
  | some text =>
    match FileSystem.locate {} [] (String.ofList (octets text)) with
    | .error problem => .error problem.reason
    | .ok path =>
      match FileSystem.place {} path with
      | .directory => .ok path
      | .missing => .error noSuchFile
      | _ => .error notADirectory

def givenVariables : List (String × String) :=
  [("HOME", "/root"),
    ("PATH", "/usr/local/sbin:/usr/local/bin:/usr/sbin:/usr/bin:/sbin:/bin")]

def firstProcess (name : String) (directory : Path) : Process :=
  let handed (value : String) : Binding := { value := some value, exported := true }
  { name, directory, bindings := givenVariables.map fun (name, value) => (name, handed value) }

/-- Runs a program to its end, and gives what it leaves behind as the events of a child. -/
def programEvents (directory : Path) (name program : String) (arguments : List String) :
    List Child.Event :=
  let engine := run maxDepth
  let action := conclude engine (runProgram engine program name arguments)
  let (ending, machine) := action.run.run { process := firstProcess name directory }
  let written (index : Nat) : List UInt8 := (machine.world.streams.getD index {}).content.bytes
  let status : Status := match ending with
    | .ok 0 => .exited (machine.process.status % 256)
    | _ => .killed
  outputEvents (written 0) (written 1) status

/-- Starts a command among the programs that are always there. -/
def launch (command : Child.Command) : Launch :=
  match malformed? command with
  | some reason => .error reason
  | none => do
    let octetText (text : String) : String := String.ofList (octets text)
    let directory ← startDirectory command.directory
    let name := octetText command.program
    let program ← launchable directory name
    let arguments := command.arguments.map octetText
    if arguments.any (maxArgument < ·.length) then throw argumentsTooLong
    return programEvents directory name program arguments

end ArtifactRelease.Shell
