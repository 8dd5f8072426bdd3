import ArtifactRelease.Shell.Utility.Request

/-!
# Programs that write their arguments
-/

namespace ArtifactRelease.Shell.Utility

def printf : Utility := fun request =>
  let arguments :=
    if request.arguments.head? = some "--" then request.arguments.drop 1 else request.arguments
  match arguments with
  | [] => request.misused 1 "missing operand"
  | format :: arguments =>
    let printing := Format.print format arguments
    { output := text printing.written.reverse
      errors := printing.complaints.map fun complaint => s!"{request.name}: {complaint}"
      status := if printing.complaints.isEmpty then 0 else 1 }

/-- The option letters of `echo`. -/
def isEchoOption (argument : String) : Bool :=
  match argument.toList with
  | '-' :: letter :: letters => (letter :: letters).all (· ∈ ['n', 'e', 'E'])
  | _ => false

/-- What `echo` writes when it is a program: escapes are read only on request. -/
def echo : Utility := fun request =>
  let options := (request.arguments.takeWhile isEchoOption).flatMap String.toList
  let shown := (" ".intercalate (request.arguments.dropWhile isEchoOption)).toList
  let ending := if 'n' ∈ options then [] else ['\n']
  let escapes := (options.filter (· ∈ ['e', 'E'])).getLast? = some 'e'
  if escapes then
    match Format.escaped true shown.length [] shown with
    | (written, true) => { output := text written.reverse }
    | (written, false) => { output := text (written.reverse ++ ending) }
  else { output := text (shown ++ ending) }

def yes : Utility := fun request =>
  let shown := if request.arguments.isEmpty then "y" else " ".intercalate request.arguments
  { output := { endless := bytesOf (shown ++ "\n").toList } }

end ArtifactRelease.Shell.Utility
