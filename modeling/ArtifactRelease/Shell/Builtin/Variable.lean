import ArtifactRelease.Shell.Builtin.Basic

/-!
# Declaring variables

Variables can be handed on to other programs, fixed, forgotten, or kept to a function.
-/

namespace ArtifactRelease.Shell.Builtin

/-- A text in single quotes, each quote inside of it in double ones. -/
def singleQuoted (text : String) : String :=
  let quote := String.singleton singleQuote
  let pieces := Text.splitOn singleQuote text.toList
  let quoted := pieces.map fun piece =>
    if piece.isEmpty then "" else quote ++ String.ofList piece ++ quote
  if text.isEmpty then quote ++ quote else s!"\"{quote}\"".intercalate quoted

def declaration (word : String) (entry : String × Binding) : String :=
  match entry.2.value with
  | some value => s!"{word}{entry.1}={singleQuoted value}\n"
  | none => s!"{word}{entry.1}\n"

def declarations (word : String) (chosen : Binding → Bool) : Run String := do
  let entries := (← Run.process).bindings.filter fun entry => chosen entry.2
  let sorted := entries.mergeSort fun first second =>
    !Test.compared.textBefore second.1.toList first.1.toList
  return String.join (sorted.map (declaration word))

/-- Splits an argument that may hold a value for a name. -/
def namedValue (argument : String) : String × Option String :=
  let name := argument.toList.takeWhile (· ≠ '=')
  match argument.toList.drop name.length with
  | _ :: value => (String.ofList name, some (String.ofList value))
  | [] => (argument, none)

/-- Marks variables, after giving them values.  Without names, or with an option, they are shown. -/
def declare (word : String) (marked : Binding → Binding) (chosen : Binding → Bool)
    (arguments : List String) : Run Nat := do
  let shows : Bool := (arguments.headD "").toList.take 2 = ['-', 'p']
  let arguments ← if shows then pure [] else operands arguments
  if arguments.isEmpty then
    output word (← declarations (word ++ " ") chosen).toList 0
  else
    arguments.forM fun argument => do
      let (name, value) := namedValue argument
      if !isName name then Run.abort s!"{name}: bad variable name"
      match value with
      | some value => Run.assign name value
      | none => pure ()
      Run.setBinding name (some (marked ((← Run.binding? name).getD {})))
    return 0

def unset (arguments : List String) : Run Nat := do
  let (letters, names) ← withLetters ['f', 'v'] arguments
  let functions : Bool := letters.getLast? = some 'f'
  names.forM fun name => do
    if functions then
      Run.change fun process =>
        { process with functions := process.functions.filter (·.1 ≠ name) }
    else if !isName name then Run.abort s!"{name}: bad variable name"
    else match ← Run.binding? name with
      | some binding =>
        if binding.fixed then Run.abort s!"{name}: is read only"
        else
          if name = "OPTIND" then Run.setOptionIndex ""
          Run.setBinding name none
      | none => pure ()
  return 0

/-- Keeps changes of a variable to the current function. -/
def makeLocal (name : String) (value : Option String) : Run Unit := do
  if value.isNone && !isName name then Run.abort s!"{name}: bad variable name"
  let old ← Run.binding? name
  Run.change fun process => { process with locals := (name, old) :: process.locals }
  match value with
  | some value => Run.assign name value
  | none => pure ()

/-- Keeps changes of variables to the current function, and for a hyphen those of the options. -/
def localVariables (arguments : List String) : Run Nat := do
  if (← Run.process).functionDepth = 0 then Run.abort "not in a function"
  arguments.forM fun argument =>
    if argument = "-" then
      Run.change fun process =>
        { process with localOptions := process.localOptions <|> some process.options }
    else
      let (name, value) := namedValue argument
      makeLocal name value
  return 0

end ArtifactRelease.Shell.Builtin
