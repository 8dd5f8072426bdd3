import ArtifactRelease.Shell.Format
import ArtifactRelease.Shell.Reader
import ArtifactRelease.Shell.Test

/-!
# What commands of the shell have in common

Each takes its arguments and answers with a status.  The commands that are part of the language end
the shell when they are misused; the others only fail.
-/

namespace ArtifactRelease.Shell.Builtin

/-- Writes to the standard output; a refusal is complained about. -/
def output (name : String) (text : List Char) (status : Nat) : Run Nat := do
  if ← Run.write 1 text then return status
  else
    Run.complain s!"{name}: I/O error"
    return 1

def failure (text : String) : Run Nat := do
  Run.complain text
  return 2

def maxNumber : Int := 2147483647

def number (argument : String) : Run Nat := do
  match Test.integer argument with
  | .ok value =>
    if 0 ≤ value && value ≤ maxNumber then return value.toNat
    else Run.abort s!"Illegal number: {argument}"
  | .error _ => Run.abort s!"Illegal number: {argument}"

/-- Options by their letters, with the values of those that take one, and the arguments behind
them. -/
abbrev Given := List (Char × String) × List String

/-- Reads the letters of one argument; a value may stand in the same argument or in the next. -/
def readLetters (flags valued : List Char) (later : List String) : List Char → Run Given
  | [] => return ([], later)
  | letter :: letters => do
    if letter ∈ valued then
      match letters, later with
      | [], [] => Run.abort s!"No arg for -{letter} option"
      | [], value :: later => return ([(letter, value)], later)
      | value, later => return ([(letter, String.ofList value)], later)
    else if letter ∈ flags then
      let (options, later) ← readLetters flags valued later letters
      return ((letter, "") :: options, later)
    else Run.abort s!"Illegal option -{letter}"

def readOptions (flags valued : List Char) : (fuel : Nat) → List String → Run Given
  | 0, arguments => return ([], arguments)
  | _, [] => return ([], [])
  | fuel + 1, argument :: later => do
    match argument.toList with
    | ['-', '-'] => return ([], later)
    | '-' :: letter :: letters =>
      let (first, later) ← readLetters flags valued later (letter :: letters)
      let (options, later) ← readOptions flags valued fuel later
      return (first ++ options, later)
    | _ => return ([], argument :: later)

/-- The letters of the options in front of arguments, and what follows them. -/
def withLetters (flags : List Char) (arguments : List String) : Run (List Char × List String) := do
  let (options, arguments) ← readOptions flags [] (arguments.length + 1) arguments
  return (options.map (·.1), arguments)

/-- The arguments of a command without options. -/
def operands (arguments : List String) : Run (List String) := do
  return (← withLetters [] arguments).2

def printf (arguments : List String) : Run Nat := do
  match ← operands arguments with
  | [] => failure "usage: printf format [arg ...]"
  | format :: arguments =>
    let printing := Format.print format arguments
    printing.complaints.forM fun complaint => Run.complain complaint
    let status := if printing.broken then 2 else if printing.complaints.isEmpty then 0 else 1
    output "printf" printing.written.reverse status

def test (name : String) (arguments : List String) : Run Nat := do
  let judged (words : List String) : Run Nat := do
    let machine ← get
    match Test.judge ⟨machine.process.directory, machine.world.system⟩ words with
    | .ok true => return 0
    | .ok false => return 1
    | .error problem => failure problem.message
  if name = "[" then
    if arguments.getLast? = some "]" then judged arguments.dropLast
    else failure "missing ]"
  else judged arguments

end ArtifactRelease.Shell.Builtin
