import ArtifactRelease.Shell.Builtin.Variable

/-!
# Other names for texts

A shell shows the names by the place they have in a table, whose rows are chosen by the characters
of a name.
-/

namespace ArtifactRelease.Shell.Builtin

/-- The row of a table with some rows that a name belongs to. -/
def tableRow (rows : Nat) (name : String) : Nat :=
  let codes := name.toList.map Char.toNat
  (codes.headD 0 * 16 + codes.foldl (· + ·) 0) % 0x8000 % rows

/-- Names by their rows, those of one row by age; the latest come first in the given list. -/
def inTableOrder (rows : Nat) (names : List String) : List String :=
  names.reverse.mergeSort fun first second => tableRow rows first ≤ tableRow rows second

def aliasLine (name : String) (text : List Char) : String :=
  s!"{name}={singleQuoted (String.ofList text)}\n"

def noAlias (command name : String) : Run Nat := do
  let _ ← Run.write 2 s!"{command}: {name} not found\n".toList
  return 1

def defineAlias (name value : String) : Run Unit :=
  Run.change fun process =>
    let aliases := if process.aliases.any (·.1 = name) then
        process.aliases.map fun entry => if entry.1 = name then (name, value.toList) else entry
      else (name, value.toList) :: process.aliases
    { process with aliases }

/-- Defines other names, or shows them. -/
def runAlias (arguments : List String) : Run Nat := do
  let shown (name : String) : Run (Option String) := do
    return ((← Run.process).aliases.find? (·.1 = name)).map fun entry =>
      aliasLine entry.1 entry.2
  if arguments.isEmpty then
    let names := inTableOrder 39 ((← Run.process).aliases.map (·.1))
    let lines ← names.mapM shown
    output "alias" (String.join (lines.filterMap id)).toList 0
  else
    arguments.foldlM (fun status argument => do
      match namedValue argument with
      | (name, some value) =>
        if name.isEmpty then noAlias "alias" argument
        else
          defineAlias name value
          return status
      | (name, none) =>
        match ← shown name with
        | some line => output "alias" line.toList status
        | none => noAlias "alias" name) 0

def unalias (arguments : List String) : Run Nat := do
  let (letters, names) ← withLetters ['a'] arguments
  if !letters.isEmpty then
    Run.change fun process => { process with aliases := [] }
    return 0
  else
    names.foldlM (fun status name => do
      if (← Run.process).aliases.any (·.1 = name) then
        Run.change fun process =>
          { process with aliases := process.aliases.filter (·.1 ≠ name) }
        return status
      else noAlias "unalias" name) 0

end ArtifactRelease.Shell.Builtin
