import ArtifactRelease.Shell.Builtin.Variable

/-!
# Options, parameters and leaving

The options of the shell and its positional parameters, and the ways out of loops, functions and the
shell.
-/

namespace ArtifactRelease.Shell.Builtin

/-- The options by letter and name; the last two have no letter that can be typed. -/
def optionNames : List (Char × String) :=
  [('e', "errexit"), ('f', "noglob"), ('I', "ignoreeof"), ('i', "interactive"), ('m', "monitor"),
    ('n', "noexec"), ('s', "stdin"), ('x', "xtrace"), ('v', "verbose"), ('V', "vi"),
    ('E', "emacs"), ('C', "noclobber"), ('a', "allexport"), ('b', "notify"), ('u', "nounset"),
    ('p', "privileged"), ('\x00', "nolog"), ('\x01', "debug")]

/-- All options, as they are shown or as commands that would set them again. -/
def optionLines (asCommands : Bool) : Run String := do
  let options := (← Run.process).options
  let line (entry : Char × String) : String :=
    let on : Bool := options.contains entry.1
    if asCommands then (if on then "set -o " else "set +o ") ++ entry.2 ++ "\n"
    else
      let gap := String.ofList (List.replicate (16 - entry.2.length) ' ')
      entry.2 ++ gap ++ (if on then "on\n" else "off\n")
  let title := if asCommands then "" else "Current option settings\n"
  return title ++ String.join (optionNames.map line)

def rivals : List (Char × Char) :=
  [('E', 'V'), ('V', 'E')]

/-- Turns an option on or off; the last ones of the list are kept first.  There is no terminal for
the control of jobs. -/
def setOption (letter : Char) (on : Bool) : Run Unit := do
  if letter = 'm' && on then Run.complain "can't access tty; job control turned off"
  else
    Run.change fun process =>
      let isOn (other : Char) : Bool :=
        if other = letter then on else process.options.contains other
      { process with options := (optionNames.map (·.1)).reverse.filter isOn }

def setLetter (letter : Char) (on : Bool) : Run Unit := do
  setOption letter on
  if on then (rivals.filter (·.1 = letter)).forM fun (_, other) => setOption other false

/-- Takes the options in front of the arguments.  The arguments behind them are given if there are
any, or if the options end with two hyphens.  A single hyphen ends them as well, and turns off what
shows the commands; where a shell is `starting`, it does not, and one letter more is known. -/
def takeOptions (starting : Bool) : (fuel : Nat) → List String → Run (Option (List String))
  | 0, arguments => return some arguments
  | fuel + 1, arguments => do
    match arguments with
    | [] => return none
    | "--" :: rest => return some rest
    | "-" :: rest =>
      if !starting then
        setOption 'x' false
        setOption 'v' false
      return if rest.isEmpty then none else some rest
    | argument :: rest =>
      match argument.toList with
      | sign :: letters =>
        if sign = '-' || sign = '+' then
          let on := sign = '-'
          let wantsName : Bool := letters.contains 'o'
          let plain := letters.filter fun letter => letter ≠ 'o' && !(starting && letter = 'c')
          plain.forM fun letter => do
            if optionNames.any (·.1 = letter) then setLetter letter on
            else Run.abort s!"Illegal option -{letter}"
          match wantsName, rest with
          | true, option :: rest =>
            match optionNames.find? (·.2 = option) with
            | some (letter, _) => setOption letter on
            | none => Run.abort s!"Illegal option -o {option}"
            takeOptions starting fuel rest
          | _, _ => takeOptions starting fuel rest
        else return some arguments
      | [] => return some arguments

def set (arguments : List String) : Run Nat := do
  if arguments.isEmpty then
    output "set" (← declarations "" (·.value.isSome)).toList 0
  else
    if arguments = ["-o"] || arguments = ["+o"] then
      return ← output "set" (← optionLines (arguments = ["+o"])).toList 0
    match ← takeOptions false (arguments.length + 1) arguments with
    | some positionals =>
      Run.change fun process => { process with positionals, optionPosition := {} }
    | none => pure ()
    return 0

def shift (arguments : List String) : Run Nat := do
  let count ← match arguments with
    | [] => pure 1
    | argument :: _ => number argument
  let positionals := (← Run.process).positionals
  if positionals.length < count then Run.abort "can't shift that many"
  else
    Run.change fun process =>
      { process with positionals := positionals.drop count, optionPosition := {} }
    return 0

/-- The status given as an argument, or else that of the last command. -/
def statusArgument (arguments : List String) : Run Nat := do
  match arguments with
  | [] => return (← Run.process).status
  | argument :: _ => number argument

/-- Ends the shell.  Without an argument, the action for a signal is left with the status from
before it. -/
def exit (arguments : List String) : Run Nat := do
  Run.setStatus (← statusArgument arguments)
  if arguments.isEmpty then
    if let some action := (← Run.process).inAction then Run.setStatus action.status
  throw .exited

/-- Leaves a function, a script in a file, or the action for a signal. -/
def leaveFunction (arguments : List String) : Run Nat := do
  Run.setStatus (← statusArgument arguments)
  let process ← Run.process
  if arguments.isEmpty then
    if let some action := process.inAction then
      if action.functionDepth = process.functionDepth then Run.setStatus action.status
  throw (.returned !arguments.isEmpty)

/-- Leaves loops, or goes on with their next round. -/
def leave (stop : Nat → Stop) (arguments : List String) : Run Nat := do
  let count ← match arguments with
    | [] => pure 1
    | argument :: _ => number argument
  if count = 0 then Run.abort "Illegal number: 0"
  let loops := (← Run.process).loops
  Run.setStatus 0
  if loops = 0 then return 0 else throw (stop (min count loops - 1))

end ArtifactRelease.Shell.Builtin
