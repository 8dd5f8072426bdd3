import ArtifactRelease.Shell.Builtin.Variable

/-!
# Reading options from arguments

One option is read at a time.  The variable `OPTIND` shows the number of the next argument; how far
the argument before that has been read is kept beside it.
-/

namespace ArtifactRelease.Shell.Builtin

structure OptionStep where
  /-- What is given to the variable for the option. -/
  letter : Char := '?'
  /-- What is given to the variable for the argument of an option, or none to forget it. -/
  argument : Option (List Char) := none
  /-- Whether that variable is left as it is. -/
  keepsArgument : Bool := false
  complaint : Option String := none
  position : OptionPosition
  /-- Whether there was no option left. -/
  ended : Bool := false

/-- Whether an option is known by its letter, and whether it has an argument. -/
def knownOption? (letter : Char) : List Char → Option Bool
  | [] => none
  | c :: later =>
    let valued := later.head? = some ':'
    if c = letter then some valued
    else knownOption? letter (match later with
      | ':' :: later => later
      | later => later)
termination_by known => known.length
decreasing_by all_goals grind

/-- Reads the option that `letter` and `later` in the argument before `index` begin. -/
def optionIn (known : List Char) (arguments : List String) (index : Nat) (current : List Char)
    (letter : Char) (later : List Char) : OptionStep :=
  let quiet : Bool := known.head? = some ':'
  let onward : OptionPosition := ⟨index, some (current.length - later.length)⟩
  match knownOption? letter known with
  | none =>
    if quiet then { argument := some [letter], position := onward }
    else { complaint := some s!"Illegal option -{letter}", position := onward }
  | some false => { letter, argument := some [], position := onward }
  | some true =>
    if !later.isEmpty then { letter, argument := some later, position := ⟨index, none⟩ }
    else match arguments[index - 1]? with
      | some value => { letter, argument := some value.toList, position := ⟨index + 1, none⟩ }
      | none =>
        if quiet then { letter := ':', argument := some [letter], position := ⟨index, none⟩ }
        else { complaint := some s!"No arg for -{letter} option", position := ⟨index, none⟩ }

def nextOption (known : List Char) (arguments : List String) (position : OptionPosition) :
    OptionStep :=
  let current := (arguments[position.index - 2]?.getD "").toList
  let pending := match position.offset with
    | some offset => if 1 < position.index then current.drop offset else []
    | none => []
  match pending with
  | letter :: later => optionIn known arguments position.index current letter later
  | [] =>
    let ended (index : Nat) : OptionStep :=
      { keepsArgument := true, position := ⟨index, none⟩, ended := true }
    match (arguments[position.index - 1]?.getD "").toList with
    | ['-', '-'] => ended (position.index + 1)
    | '-' :: letter :: later =>
      optionIn known arguments (position.index + 1) ('-' :: letter :: later) letter later
    | _ => ended position.index

def getopts (arguments : List String) : Run Nat := do
  match arguments with
  | known :: name :: given =>
    let process ← Run.process
    let words := if given.isEmpty then process.positionals else given
    let position := process.optionPosition
    let position := if words.length + 1 < position.index then {} else position
    let step := nextOption known.toList words position
    match step.complaint with
    | some complaint =>
      let _ ← Run.write 2 (complaint ++ "\n").toList
    | none => pure ()
    if !step.keepsArgument then
      match step.argument with
      | some argument => Run.assign "OPTARG" (String.ofList argument)
      | none => Run.setBinding "OPTARG" none
    Run.assign "OPTIND" (toString step.position.index)
    if !isName name then Run.abort s!"{name}: bad variable name"
    Run.assign name (String.singleton step.letter)
    Run.change fun process => { process with optionPosition := step.position }
    return if step.ended then 1 else 0
  | _ => Run.abort "Usage: getopts optstring var [arg...]"

end ArtifactRelease.Shell.Builtin
