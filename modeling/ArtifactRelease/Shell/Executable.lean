import ArtifactRelease.Shell.Subshell
import ArtifactRelease.Shell.Utility

/-!
# Programs

A program is searched for by its name and runs in a process of its own, or in the place of the
shell.  It is another shell or one of the small programs.
-/

namespace ArtifactRelease.Shell

/-- The variables that are handed on to other programs. -/
def environment : Run (List (String × String)) := do
  return (← Run.process).bindings.filterMap fun (name, binding) =>
    if binding.exported then binding.value.map (name, ·) else none

/-- Gives a variable a value unless it has one. -/
def preset (name value : String) : Run Unit := do
  match ← Run.value? name with
  | some _ => return ()
  | none => Run.setBinding name (some { value := some value })

/-- The text of a script in a file; what holds no text is an empty script. -/
def scriptIn (file : String) : Run (Option (List Char)) := do
  let machine ← get
  match machine.world.system.find machine.process.directory file with
  | .ok (.file content) => return some (ofBytes content)
  | .ok (.descriptor number) => return some (ofBytes (← Run.readAll number).bytes)
  | .ok .directory | .ok (.device _) => return some []
  | _ => return none

/-- The name that a shell knows its directory by when it starts: the one that it is told, if that
leads there. -/
def startName (system : FileSystem) (directory : Path) (told : Option String) : String :=
  let isRight (name : String) : Bool :=
    name.toList.head? = some '/' && (system.locate [] name).toOption = some directory
  (told.filter isRight).getD directory.text

def presetVariables : Run Unit := do
  let process ← Run.process
  let directoryName := startName (← Run.world).system process.directory (← Run.value? "PWD")
  Run.change fun process => { process with directoryName }
  Run.assign "IFS" defaultSeparators
  Run.assign "OPTIND" "1"
  Run.assignExported "PWD" directoryName
  Run.assign "PPID" (toString (process.ancestors.headD 0))
  preset "PS1" "# "
  preset "PS2" "> "
  preset "PS4" "+ "

/-- Starts a shell with arguments: options, and then a script, the name of a file, or nothing for
the input.  What is wrong with them is on no line. -/
def startShell (engine : Engine) (arguments : List String) : Run Unit := do
  presetVariables
  Run.change fun process => { process with line := 0 }
  let rest := (← Builtin.takeOptions true (arguments.length + 1) arguments).getD []
  let isOption (argument : String) : Bool :=
    argument.toList.head? = some '-' || argument.toList.head? = some '+'
  let options := (arguments.take (arguments.length - rest.length)).filter isOption
  let starting (name : Option String) (positionals : List String) (script : List Char) :
      Run Unit := do
    Run.change fun process =>
      { process with line := 1, name := name.getD process.name, positionals }
    runScript engine false script
  let hasLetter (letter : Char) : Bool := options.any (·.toList.contains letter)
  match rest with
  | [] =>
    if hasLetter 'c' then Run.abort "-c requires an argument"
    else starting none [] (ofBytes (← Run.readAll 0).bytes)
  | first :: later =>
    if hasLetter 'c' then starting later.head? (later.drop 1) first.toList
    else if hasLetter 's' then starting none rest (ofBytes (← Run.readAll 0).bytes)
    else match ← scriptIn first with
      | some script => starting (some first) later script
      | none => Run.abort s!"cannot open {first}: No such file"

/-- The variables that are handed on to a program, in the order of the shell's table of them. -/
def handedOn (bindings : List (String × Binding)) : List (String × Binding) :=
  let exported := bindings.filter fun entry => entry.2.exported
  (Builtin.inTableOrder 39 (exported.map (·.1))).filterMap fun name =>
    exported.find? (·.1 = name)

def freshProcess (name : String) (process : Process) : Process :=
  { name
    number := process.number
    ancestors := process.ancestors
    bindings := handedOn process.bindings
    mask := process.mask
    descriptors := process.descriptors
    directory := process.directory
    job := process.job
    ignoredSignals := process.ignoredSignals ++ (process.traps.filter (·.2.isEmpty)).map (·.1)
    clock := process.clock + startTime }

def readingPrograms : List String :=
  ["awk", "cat", "cut", "grep", "head", "mawk", "od", "sed", "sort", "tail", "tee", "tr", "uniq",
    "wc"]

def passingPrograms : List String :=
  ["cat", "cut", "grep", "sed", "tee", "tr"]

def refusal : Option Channel → String
  | some .full => "No space left on device"
  | _ => closedReason

/-- What a program says if its output cannot be written, and its status then. -/
def writeFault (program : String) (isClosed : Bool) (reason : String) : List String × Nat :=
  match program with
  | "cat" => ([(if isClosed then "standard output: " else "write error: ") ++ reason], 1)
  | "wc" => (["write error" ++ if isClosed then s!": {reason}" else ""], 1)
  | "sort" =>
    ([s!"fflush failed: 'standard output': {reason}",
      "write error" ++ if isClosed then s!": {reason}" else ""], 2)
  | "tee" => ([s!"'standard output': {reason}"], 1)
  | "yes" => ([s!"standard output: {reason}"], 1)
  | "sed" =>
    let step := if isClosed then "close" else "flush"
    ([s!"couldn't {step} stdout: {reason}"], 4)
  | "awk" | "mawk" => ([s!"close failed on file \"/dev/stdout\" ({reason})"], 2)
  | "grep" | "ls" => ([s!"write error: {reason}"], 2)
  | "expr" => ([s!"write error: {reason}"], 3)
  | _ => ([s!"write error: {reason}"], 1)

/-- Why nothing can be read from a channel, if that is so. -/
def inputFault? : Option Channel → Option String
  | some .directory => some isDirectoryReason
  | none => some closedReason
  | _ => none

/-- Takes note of how far a small program has read its input.  One that writes as it reads was
only cut off if its writer was. -/
def noteReading (program : String) (input : Content) (response : Response) : Run Unit := do
  match ← Run.source? 0 with
  | some (.file _) =>
    if response.left ≠ 0 then
      Run.unread 0 { bytes := input.bytes.drop (input.bytes.length - response.left) }
  | some (.supply _) =>
    if response.stopped then Run.stopReading 0
    else if program ∈ passingPrograms then
      match ← Run.sink? 1 with
      | some (.stream index) =>
        if ((← Run.world).streams.getD index {}).room.isSome then
          Run.stopReading 0
          Run.changeWorld fun world => { world with
            streams := world.streams.modify index ({ · with isCut := true }) }
      | _ => pure ()
  | _ => pure ()

def fileOf (channel : Option Channel) : Run (Option OpenFile) := do
  match channel with
  | some (.file index) => return (← Run.world).openFiles[index]?
  | _ => return none

def runUtility (utility : Utility) (program name : String) (arguments : List String) :
    Run Unit := do
  let inputFile := (← fileOf (← Run.source? 0)).map fun file => (file.path, file.position)
  let outputFile := (← fileOf (← Run.sink? 1)).map (·.path)
  let input ← if program ∈ readingPrograms then Run.readAll 0 else pure {}
  let machine ← get
  let named := arguments.filterMap fun argument =>
    match machine.world.system.find machine.process.directory argument with
    | .ok (.descriptor number) => if 2 < number then some number else none
    | _ => none
  let opened ← named.filterMapM fun number => do
    if (← Run.source? number).isSome then return some (number, ← Run.readAll number)
    else return none
  let response := utility
    { name, arguments, input, inputFile, outputFile, opened, environment := ← environment
      inputFault := inputFault? (← Run.source? 0), inputIsClosed := (← Run.opening? 0).isNone
      directory := machine.process.directory, system := machine.world.system }
  Run.spend response.delay
  noteReading program input response
  match response.system with
  | some system => Run.changeWorld fun world => { world with system }
  | none => pure ()
  let _ ← Run.write 2 (String.join (response.errors.map (· ++ "\n"))).toList
  let _ ← Run.writeBytes 2 response.copied
  let isClosed := (← Run.opening? 1).isNone
  if !(program = "cat" && isClosed) && (← Run.writeContent 1 response.output) then
    Run.setStatus response.status
  else
    let (complaints, status) := writeFault program isClosed (refusal (← Run.sink? 1))
    complaints.forM fun complaint => do
      let _ ← Run.write 2 s!"{name}: {complaint}\n".toList
    Run.setStatus status

/-- The program that a name leads to, or else the complaint and the status. -/
def findProgram (name : String) : Run (Except (String × Nat) String) := do
  let machine ← get
  if name.isEmpty then return .error ("Permission denied", 127)
  else if '/' ∈ name.toList then
    match machine.world.system.find machine.process.directory name with
    | .ok (.program program) => return .ok program
    | .ok .missing => return .error ("not found", 127)
    | .ok _ => return .error ("Permission denied", 126)
    | .error .nameTooLong => return .error ("File name too long", 126)
    | .error _ => return .error ("not found", 127)
  else if FileSystem.maxName < name.length then return .error ("File name too long", 126)
  else match ← Run.search name with
    | .program program _ => return .ok program
    | .forbidden => return .error ("Permission denied", 127)
    | .nothing => return .error ("not found", 127)

def runProgram (engine : Engine) (program name : String) (arguments : List String) : Run Unit :=
  match program with
  | "sh" | "dash" => do
    Run.change fun process => { process with name, scriptNumber := process.number }
    startShell engine arguments
  | _ =>
    match utility? program with
    | some utility => runUtility utility program name arguments
    | none => Run.setStatus 127

/-- Runs a program in a process of its own and waits for it. -/
def runExternal (engine : Engine) (name : String) (arguments : List String) : Run Unit := do
  match ← findProgram name with
  | .error (reason, status) =>
    Run.complain s!"{name}: {reason}"
    Run.setStatus status
  | .ok program =>
    if '/' ∉ name.toList then Builtin.remember name
    await (← inProcess engine (freshProcess name)
      (runProgram engine program name arguments))

def execute (engine : Engine) (name : String) (arguments : List String) : Run Unit := do
  match ← findProgram name with
  | .error (reason, status) =>
    Run.complain s!"{name}: {reason}"
    Run.setStatus status
    throw .exited
  | .ok program =>
    let ending ← runFrom engine (freshProcess name (← Run.process))
      (runProgram engine program name arguments)
    Run.waitUntil ending.time
    Run.setStatus ending.status
    throw (if ending.signal = 0 then .replaced else .killed ending.signal)

end ArtifactRelease.Shell
