import ArtifactRelease.Text.Blank

/-!
# Commands run as child processes

A command is a program with its arguments.  Its standard output is returned only if it was asked
for. Running it can fail in three ways: the program cannot be started, it ends with a status other
than zero, or its pipes break.
-/

namespace ArtifactRelease.Child

open ArtifactRelease.Text

structure Command where
  program : String
  arguments : List String
  /-- Whether the standard output is wanted. -/
  captures : Bool := false
  /-- The directory to run in, if not the current one. -/
  directory : Option String := none
  deriving Repr, DecidableEq

/-- The program and its arguments with single spaces between them. -/
def Command.line (command : Command) : String :=
  " ".intercalate (command.program :: command.arguments)

inductive Failure where
  | notStarted (program : String) (reason : String)
  | unsuccessful (program : String) (code : Int) (stderr : String)
  | brokenPipe (program : String) (reason : String)
  deriving Repr, DecidableEq

namespace Failure

def message : Failure → String
  | notStarted program reason => s!"failed to spawn '{program}': {reason}"
  | unsuccessful program code stderr =>
    s!"'{program}' exited with code {code}: {trimmed stderr}"
  | brokenPipe program reason => s!"I/O error while running '{program}': {reason}"

def causes : Failure → List String
  | notStarted _ reason => [reason]
  | unsuccessful _ _ _ => []
  | brokenPipe _ reason => [reason]

def chain (failure : Failure) : List String :=
  failure.message :: failure.causes

def exitCode? : Failure → Option Int
  | unsuccessful _ code _ => some code
  | _ => none

end Failure

/-- What comes of running a command: its standard output, if it was asked for and all went well. -/
abbrev Outcome := Except Failure String

end ArtifactRelease.Child
