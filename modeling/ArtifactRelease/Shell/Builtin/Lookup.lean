import ArtifactRelease.Shell.Builtin.Alias

/-!
# What a name stands for as a command

A reserved word, another name for a text, a function, a command that the shell knows itself, or a
program on the search path.
-/

namespace ArtifactRelease.Shell

/-- The commands that the shell knows itself, besides those that are part of the language. -/
def ordinaryBuiltins : List String :=
  ["[", "alias", "cd", "chdir", "command", "echo", "false", "getopts", "hash", "kill", "printf",
    "pwd", "read", "test", "true", "type", "umask", "unalias", "wait"]

inductive Search where
  /-- The program, and the path that it was found at. -/
  | program (program path : String)
  /-- Something is there that is no program. -/
  | forbidden
  | nothing
  deriving Repr, DecidableEq

def searchProgram (system : FileSystem) (directory : Path) (name : String) :
    List String → Search
  | [] => .nothing
  | start :: later =>
    let candidate := if start.isEmpty then name else s!"{start}/{name}"
    match system.find directory candidate with
    | .ok (.program program) => .program program candidate
    | .ok .missing | .error _ => searchProgram system directory name later
    | .ok _ =>
      match searchProgram system directory name later with
      | .nothing => .forbidden
      | found => found

def Run.searchOn (path name : String) : Run Search := do
  let machine ← get
  if path.isEmpty then return .nothing
  return searchProgram machine.world.system machine.process.directory name (Text.pieces ':' path)

/-- Looks for a program on the search path of the shell. -/
def Run.search (name : String) : Run Search := do
  Run.searchOn ((← Run.value? "PATH").getD "") name

namespace Builtin

inductive Meaning where
  | keyword
  | aliased (text : List Char)
  | function
  | builtin (special : Bool)
  /-- A program; `tracked` if it was searched for before. -/
  | program (path : String) (tracked : Bool)
  deriving Repr, DecidableEq

def meaning? (name : String) : Run (Option Meaning) := do
  let process ← Run.process
  if name ∈ reservedWords then return some .keyword
  else match process.aliases.find? (·.1 = name) with
    | some (_, text) => return some (.aliased text)
    | none =>
      if process.functions.any (·.1 = name) then return some .function
      else if name ∈ specialBuiltins then return some (.builtin true)
      else if name ∈ ordinaryBuiltins then return some (.builtin false)
      else if '/' ∈ name.toList then
        match (← Run.world).system.find process.directory name with
        | .ok .missing | .error _ => return none
        | .ok _ => return some (.program name false)
      else match ← Run.search name with
        | .program _ path => return some (.program path (name ∈ process.found))
        | _ => return none

def Meaning.description : Meaning → String
  | keyword => "a shell keyword"
  | aliased text => "an alias for " ++ String.ofList text
  | function => "a shell function"
  | builtin true => "a special shell builtin"
  | builtin false => "a shell builtin"
  | program path tracked => if tracked then "a tracked alias for " ++ path else path

def meanings (names : List String) : Run Nat := do
  names.foldlM (fun status name => do
    match ← meaning? name with
    | some meaning => output "type" s!"{name} is {meaning.description}\n".toList status
    | none =>
      let _ ← output "type" s!"{name}: not found\n".toList 0
      return 127) 0

/-- Names a command as `command -v` does. -/
def naming (name : String) : Run Nat := do
  match ← meaning? name with
  | some (.program path _) => output "command" (path ++ "\n").toList 0
  | some (.aliased text) => output "command" ("alias " ++ aliasLine name text).toList 0
  | some _ => output "command" (name ++ "\n").toList 0
  | none => return 127

/-- The command that `command` is to run, if it has no other option than the one for the standard
search path. -/
def commandRun? : List String → Option (List String)
  | [] => some []
  | "-" :: later => some ("-" :: later)
  | "--" :: later => some later
  | argument :: later =>
    match argument.toList with
    | '-' :: letters => if letters.all (· = 'p') then commandRun? later else none
    | _ => some (argument :: later)

/-- Names or describes what `command` would run. -/
def describeCommand (arguments : List String) : Run Nat := do
  let (letters, names) ← withLetters ['p', 'v', 'V'] arguments
  match names with
  | [] => return 0
  | name :: _ => if 'V' ∈ letters then meanings [name] else naming name

def remember (name : String) : Run Unit :=
  Run.change fun process =>
    if name ∈ process.found then process else { process with found := name :: process.found }

/-- Searches for programs ahead of time, or shows those that were found. -/
def hash (arguments : List String) : Run Nat := do
  let (letters, names) ← withLetters ['r'] arguments
  if !letters.isEmpty then
    Run.change fun process => { process with found := [] }
    return 0
  else match names with
    | [] =>
      let names := inTableOrder 31 (← Run.process).found
      let lines ← names.mapM fun name => do
        match ← Run.search name with
        | .program _ path => return path ++ "\n"
        | _ => return ""
      output "hash" (String.join lines).toList 0
    | names =>
      names.foldlM (fun status name => do
        match ← meaning? name with
        | some (.program path _) =>
          if path ≠ name then remember name
          return status
        | some _ => return status
        | none =>
          Run.complain s!"{name}: not found"
          return 1) 0

end Builtin

end ArtifactRelease.Shell
