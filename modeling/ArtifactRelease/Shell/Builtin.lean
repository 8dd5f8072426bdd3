import ArtifactRelease.Shell.Builtin.Directory
import ArtifactRelease.Shell.Builtin.Getopts
import ArtifactRelease.Shell.Builtin.Input
import ArtifactRelease.Shell.Builtin.Job
import ArtifactRelease.Shell.Builtin.Lookup
import ArtifactRelease.Shell.Builtin.Option
import ArtifactRelease.Shell.Builtin.Permission

/-!
# Commands that the shell knows itself

The commands by name.
-/

namespace ArtifactRelease.Shell

/-- Runs a command of the shell that needs nothing but its arguments. -/
def builtin? (name : String) (arguments : List String) : Option (Run Nat) :=
  match name with
  | ":" | "true" => some (return 0)
  | "hash" => some (Builtin.hash arguments)
  | "alias" => some (Builtin.runAlias arguments)
  | "unalias" => some (Builtin.unalias arguments)
  | "getopts" => some (Builtin.getopts arguments)
  | "false" => some (return 1)
  | "echo" => some (Builtin.output "echo" (Format.echo arguments) 0)
  | "printf" => some (Builtin.printf arguments)
  | "test" | "[" => some (Builtin.test name arguments)
  | "read" => some (Builtin.read arguments)
  | "cd" | "chdir" => some (Builtin.cd arguments)
  | "pwd" => some (Builtin.pwd arguments)
  | "export" =>
    some (Builtin.declare name (fun binding => { binding with exported := true }) (·.exported)
      arguments)
  | "readonly" =>
    some (Builtin.declare name (fun binding => { binding with fixed := true }) (·.fixed) arguments)
  | "unset" => some (Builtin.unset arguments)
  | "local" => some (Builtin.localVariables arguments)
  | "set" => some (Builtin.set arguments)
  | "shift" => some (Builtin.shift arguments)
  | "exit" => some (Builtin.exit arguments)
  | "return" => some (Builtin.leaveFunction arguments)
  | "break" => some (Builtin.leave .left arguments)
  | "continue" => some (Builtin.leave .repeated arguments)
  | "trap" => some (Builtin.trap arguments)
  | "kill" => some (Builtin.kill arguments)
  | "wait" => some (Builtin.wait arguments)
  | "umask" => some (Builtin.umask arguments)
  | "type" => some (Builtin.meanings arguments)
  | _ => none

end ArtifactRelease.Shell
