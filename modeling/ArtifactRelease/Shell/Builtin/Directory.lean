import ArtifactRelease.Shell.Builtin.Basic

/-!
# The current directory

The directory that paths start from.  A path that was taken through a link keeps the name of the
link, unless it is asked for otherwise.  A goal that does not start at the root or with a point is
looked for in the directories of a search path first.
-/

namespace ArtifactRelease.Shell.Builtin

/-- Whether a name starts with exactly two slashes, which it then keeps. -/
def isDoublyRooted (name : String) : Bool :=
  match name.toList with
  | '/' :: '/' :: rest => rest.head? ≠ some '/'
  | _ => false

/-- The name of the goal of a way from a directory with a name, with the points taken out. -/
def nameFrom (directory goal : String) : String :=
  let isAbsolute : Bool := goal.toList.head? = some '/'
  let start := if isAbsolute then [] else (Text.pieces '/' directory).filter (!·.isEmpty)
  let doubled := isDoublyRooted (if isAbsolute then goal else directory)
  (if doubled then "/" else "") ++ ((Text.pieces '/' goal).foldl Path.walk start).text

/-- Whether links are to be followed by the last option that says so, and what follows the
options. -/
def directoryOptions (arguments : List String) : Run (Bool × List String) := do
  let (letters, arguments) ← withLetters ['L', 'P'] arguments
  return (letters.getLast? = some 'P', arguments)

/-- Whether a goal is searched for: not one that starts at the root, or with a point as a name. -/
def isSearched (goal : String) : Bool :=
  goal ≠ "" && (Text.pieces '/' goal).head?.all (· ∉ ["", ".", ".."])

/-- The directory that a goal is found in on a search path, and whether it is to be shown. -/
def searchDirectory (goal : String) : Run (Option (String × Bool)) := do
  match ← Run.value? "CDPATH" with
  | none => return none
  | some path =>
    let machine ← get
    return (Text.pieces ':' path).findSome? fun start =>
      let candidate := if start.isEmpty then goal else s!"{start}/{goal}"
      match machine.world.system.find machine.process.directory candidate with
      | .ok .directory => some (candidate, !start.isEmpty)
      | _ => none

def enterDirectory (physical : Bool) (goal : String) : Run Bool := do
  let process ← Run.process
  let system := (← Run.world).system
  let name := nameFrom process.directoryName goal
  let target := if physical then system.locate process.directory goal else system.locate [] name
  match target with
  | .ok path =>
    if system.place path ≠ .directory then return false
    let name := if physical then path.text else name
    Run.assignExported "OLDPWD" process.directoryName
    Run.change fun process => { process with directory := path, directoryName := name }
    Run.assignExported "PWD" name
    return true
  | .error _ => return false

def cd (arguments : List String) : Run Nat := do
  let (physical, arguments) ← directoryOptions arguments
  let given ← match arguments with
    | [] => Run.value? "HOME"
    | "-" :: _ => Run.value? "OLDPWD"
    | goal :: _ => pure (some goal)
  let goal := given.getD ""
  let returns : Bool := arguments.head? = some "-"
  let found ← if isSearched goal then searchDirectory goal else pure none
  let (target, shown) := found.getD (if goal.isEmpty then "." else goal, false)
  if ← enterDirectory physical target then
    if shown || returns then
      output "cd" ((← Run.process).directoryName ++ "\n").toList 0
    else return 0
  else failure s!"can't cd to {goal}"

def pwd (arguments : List String) : Run Nat := do
  let (physical, _) ← directoryOptions arguments
  let process ← Run.process
  let shown := if physical then process.directory.text else process.directoryName
  output "pwd" (shown ++ "\n").toList 0

end ArtifactRelease.Shell.Builtin
