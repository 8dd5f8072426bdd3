import ArtifactRelease.Shell.Executable
import ArtifactRelease.Shell.Redirection

/-!
# Running shell commands

Commands nest, so that running one means running others.  Everything here is given an engine that
runs the commands inside, and `run` closes the circle up to a depth.  Loops are bounded as well,
since a script need not end.
-/

namespace ArtifactRelease.Shell

def maxRounds : Nat := 1000000

/-- How long a command takes, besides the processes that it starts. -/
def commandTime : Time := 1

/-! ## Simple commands -/

def maxCalls : Nat := 1000

/-- Calls a function with its arguments as the positional parameters. -/
def callFunction (engine : Engine) (tested : Bool) (body : Command) (arguments : List String) :
    Run Unit := do
  let caller ← Run.process
  if maxCalls ≤ caller.functionDepth then
    Run.abort s!"Maximum function recursion depth ({maxCalls}) reached"
  Run.change fun process => { process with
    positionals := arguments, optionPosition := {}, loops := 0
    locals := [], localOptions := none
    functionDepth := process.functionDepth + 1 }
  let stop ← attempt (engine tested body)
  (← Run.process).locals.forM fun (name, old) => Run.setBinding name old
  Run.change fun process => { process with
    positionals := caller.positionals, optionPosition := caller.optionPosition
    locals := caller.locals, loops := caller.loops
    options := process.localOptions.getD process.options, localOptions := caller.localOptions
    functionDepth := caller.functionDepth }
  match stop with
  | none | some (.returned _) => return ()
  | some stop => throw stop

/-- Runs a command of the shell under its name.  If it is not special, then it takes the blame for
what is wrong, and the shell goes on. -/
def runBuiltin (name : String) (special : Bool) (action : Run Unit) : Run Unit := do
  let speaker := (← Run.process).speaker
  Run.change fun process => { process with speaker := some name }
  let stop ← attempt action
  Run.change fun process => { process with speaker }
  match stop with
  | none => return ()
  | some .failed => if special then throw .failed
  | some stop => throw stop

def runFile (engine : Engine) (tested : Bool) (file : String) : Run Unit := do
  let searched : Bool := '/' ∉ file.toList
  let script ← if searched then pure none else scriptIn file
  match script with
  | none =>
    if searched then Run.abort s!"{file}: not found"
    else Run.abort s!"cannot open {file}: No such file"
  | some script =>
    Run.change fun process => { process with speaker := some file }
    match ← attempt (runScript engine tested script) with
    | none | some (.returned _) => return ()
    | some stop => throw stop

/-- Whether there are actions that can be due after a program has ended. -/
def awaitsSignals : Run Bool := do
  return (← Run.process).traps.any fun (_, action) => !action.isEmpty

/-- Runs a command by its name, once its words are expanded.  A program that comes `last` takes the
place of the shell. -/
def runNamed (engine : Engine) (tested last : Bool) :
    (fuel : Nat) → (skipsFunctions : Bool) → (name : String) → List String → Run Unit
  | 0, _, _, _ => throw .exhausted
  | fuel + 1, skipsFunctions, name, arguments => do
    let process ← Run.process
    let functions := if skipsFunctions then [] else process.functions
    match functions.find? (·.1 = name) with
    | some (_, body) => callFunction engine tested body arguments
    | none =>
      let special : Bool := name ∈ specialBuiltins && !skipsFunctions
      match name with
      | "eval" => runBuiltin name special do
        runScript engine tested (" ".intercalate arguments).toList
      | "." => runBuiltin name special do
        match ← Builtin.operands arguments with
        | [] => return ()
        | file :: _ => runFile engine tested file
      | "exec" => runBuiltin name special do
        match arguments with
        | [] => Run.setStatus 0
        | program :: arguments => execute engine program arguments
      | "command" =>
        match Builtin.commandRun? arguments with
        | some (program :: arguments) => runNamed engine tested last fuel true program arguments
        | some [] => Run.setStatus 0
        | none => runBuiltin name false do Run.setStatus (← Builtin.describeCommand arguments)
      | _ =>
        match builtin? name arguments with
        | some action => runBuiltin name special do Run.setStatus (← action)
        | none =>
          if last && !(← awaitsSignals) then execute engine name arguments
          else runExternal engine name arguments

/-- Commands whose arguments are assignments, which are not split into fields. -/
def isDeclaring (word : Option Word) : Bool :=
  (word.bind plainText?).any (· ∈ ["export", "readonly", "local"])

def expandArguments (engine : Engine) (words : List Word) : Run (List String) := do
  if isDeclaring words.head? then
    let fields ← words.mapM fun word => do
      match assignment? word with
      | some (name, value) => return [s!"{name}={← expandValue (substitute engine) value}"]
      | none => expandWord (substitute engine) word
    return fields.flatten
  else expandWords (substitute engine) words

/-- Shows a command before it is run, if that is asked for. -/
def trace (engine : Engine) (channel : Option Channel) (assignments : List (String × String))
    (arguments : List String) : Run Unit := do
  if ← Run.hasOption 'x' then
    let given := (← Run.value? "PS4").getD "+ "
    let start ← match (Source.ofText (← Run.process).aliases given.toList).document with
      | .ok word => expandText (substitute engine) word
      | .error _ => pure given
    let shown := assignments.map (fun (name, value) => s!"{name}={value}") ++ arguments
    let _ ← Run.writeTo channel (bytesOf (start ++ " ".intercalate shown ++ "\n").toList)

/-- Carries out assignments one after the other, so that each value may use the ones before it. -/
def assignAll (engine : Engine) (assign : String → String → Run Unit)
    (assignments : List (String × Word)) : Run (List (String × String)) :=
  assignments.mapM fun (name, word) => do
    let value ← expandValue (substitute engine) word
    assign name value
    return (name, value)

/-- Runs a command under assignments that are undone afterwards. -/
def withAssignments (engine : Engine) (assignments : List (String × Word))
    (action : List (String × String) → Run Unit) : Run Unit := do
  let old ← assignments.mapM fun (name, _) => do return (name, ← Run.binding? name)
  let stop ← attempt do action (← assignAll engine Run.assignExported assignments)
  old.forM fun (name, binding) => Run.setBinding name binding
  if old.any (·.1 = "PATH") then Run.change fun process => { process with found := [] }
  match stop with
  | some stop => throw stop
  | none => return ()

/-- The commands of the language that a name leads to; `command` takes that property away. -/
def isSpecial (name : String) : Run Bool := do
  return name ∈ specialBuiltins && !(← Run.process).functions.any (·.1 = name)

def keepsDescriptors : (fuel : Nat) → List String → Bool
  | 0, _ => false
  | _ + 1, "exec" :: _ => true
  | fuel + 1, "command" :: arguments =>
    ((Builtin.commandRun? arguments).map (keepsDescriptors fuel)).getD false
  | _ + 1, _ => false

def runSimple (engine : Engine) (tested last : Bool) (line : Nat)
    (assignments : List (String × Word)) (words : List Word) (redirections : List Redirection) :
    Run Unit := do
  Run.spend commandTime
  Run.change fun process => { process with line, substituted := none }
  let fields ← expandArguments engine words
  let prepared ← prepareAll engine redirections
  -- what is shown does not follow the redirections
  let shownOn ← Run.sink? 2
  let touched := if keepsDescriptors (fields.length + 1) fields then [] else prepared.map (·.1)
  match fields with
  | [] =>
    withDescriptors touched do
      if ← redirectAll engine prepared then
        trace engine shownOn (← assignAll engine Run.assign assignments) []
        Run.setStatus ((← Run.process).substituted.getD 0)
      else Run.setStatus 2
  | name :: arguments =>
    let special ← isSpecial name
    let run (given : List (String × String)) : Run Unit := do
      trace engine shownOn given fields
      runNamed engine tested last (arguments.length + 2) false name arguments
    withDescriptors touched do
      if ← redirectAll engine prepared then
        if special then
          let isProgram : Bool := name = "exec" && !arguments.isEmpty
          let assign := if isProgram then Run.assignExported else Run.assign
          run (← assignAll engine assign assignments)
        else if assignments.isEmpty then run []
        else withAssignments engine assignments run
      else
        Run.setStatus 2
        if special then throw .failed

/-! ## Compound commands -/

/-- Runs a round of a loop, and tells whether the loop goes on. -/
def runRound (engine : Engine) (tested : Bool) (body : Command) : Run Bool := do
  match ← attempt (engine tested body) with
  | none | some (.repeated 0) => return true
  | some (.left 0) => return false
  | some (.left (loops + 1)) => throw (.left loops)
  | some (.repeated (loops + 1)) => throw (.repeated loops)
  | some stop => throw stop

/-- Runs rounds of a loop, where `last` is the status of the round before.  It is that of the loop
as well, if the condition does not let it go on. -/
def runLoop (engine : Engine) (tested whileSuccess : Bool) (condition body : Command) :
    (rounds : Nat) → (last : Nat) → Run Unit
  | 0, _ => throw .exhausted
  | rounds + 1, last => do
    match ← attempt (engine true condition) with
    | some (.left 0) => Run.setStatus last
    | some (.repeated 0) => runLoop engine tested whileSuccess condition body rounds last
    | some (.left (loops + 1)) =>
      Run.setStatus last
      throw (.left loops)
    | some (.repeated (loops + 1)) =>
      Run.setStatus last
      throw (.repeated loops)
    | some (.returned false) =>
      Run.setStatus last
      throw (.returned false)
    | some stop => throw stop
    | none =>
      let succeeded : Bool := (← Run.process).status = 0
      if succeeded = whileSuccess then
        if ← runRound engine tested body then
          runLoop engine tested whileSuccess condition body rounds (← Run.process).status
        else return ()
      else Run.setStatus last

def insideLoop (action : Run Unit) : Run Unit := do
  Run.change fun process => { process with loops := process.loops + 1 }
  let stop ← attempt action
  Run.change fun process => { process with loops := process.loops - 1 }
  match stop with
  | some stop => throw stop
  | none => return ()

def runEach (engine : Engine) (tested : Bool) (name : String) (body : Command) :
    List String → Run Unit
  | [] => return ()
  | value :: later => do
    Run.assign name value
    if ← runRound engine tested body then runEach engine tested name body later
    else return ()

def anyFits (engine : Engine) (subject : List Char) : List Word → Run Bool
  | [] => return false
  | pattern :: later => do
    if Glob.fits (← expandPattern (substitute engine) pattern) subject then return true
    else anyFits engine subject later

def runCases (engine : Engine) (tested : Bool) (subject : List Char) :
    List (List Word × Command) → Run Unit
  | [] => Run.setStatus 0
  | (patterns, body) :: later => do
    if ← anyFits engine subject patterns then engine tested body
    else runCases engine tested subject later

/-- How much the writers in pipelines may write, tried one after the other until those who read
them have enough. -/
def pipeRooms : List (Option Nat) := [some 4096, some 65536, none]

/-- Runs the stages of a pipeline one after the other, all from the same time on; each reads what
the one before it wrote.  The result is the ending of the last, at the time when all have ended;
how the others ended is only reported.  A stage that does not end by itself is cut off, and given
more room if its reader needs more. -/
def runStages (engine : Engine) (tested reporting : Bool) :
    (input : Option Channel) → (latest : Time) → List Command → Run Ending
  | _, latest, [] => return ⟨0, 0, latest⟩
  | input, latest, stage :: later => do
    let runStage (index : Nat) : Run Ending := inProcess engine id do
      Run.spend startTime
      match input with
      | some channel => Run.setDescriptor 0 (some ⟨channel, .reading⟩)
      | none => pure ()
      if !later.isEmpty then Run.setDescriptor 1 (some ⟨.stream index, .writing⟩)
      engine tested (.last stage)
    if later.isEmpty then
      let ending ← runStage 0
      return { ending with time := max latest ending.time }
    else
      let start ← get
      let runWith (room : Option Nat) : Run (Option Ending) := do
        set start
        let index ← Run.newStream
        Run.changeWorld fun world => { world with
          streams := world.streams.modify index ({ · with room }) }
        let ending ← runStage index
        if reporting then reportEnding ending
        let stream := (← Run.world).streams.getD index {}
        let source ← Run.supplyIndex stream.content ending.time
        let final ←
          runStages engine tested reporting (some (.supply source)) (max latest ending.time) later
        let drained := ((← Run.world).supplies.getD source {}).drained
        return if stream.isCut && drained && room.isSome then none else some final
      match ← pipeRooms.findSomeM? runWith with
      | some ending => return ending
      | none => throw .exhausted

/-- Signals from a terminal, which are of no concern to jobs in the background. -/
def terminalSignals : List Nat := [2, 3]

/-- Runs a job from its start, with the signals that were sent to it, and notes how it ended.  What
it did in an earlier run is taken back. -/
def runJob (engine : Engine) (job : Job) : Run Unit := do
  Run.changeWorld fun world => { world with
    jobs := world.jobs.filter (·.number ≠ job.number)
    signals := world.signals.filter (fun signal => signal.sender ≠ job.number
      && signal.target ≠ job.number) ++ job.signals
    streams := world.streams.map fun stream => { stream with
      chunks := stream.chunks.filter (·.job ≠ job.number) } }
  let start := { offspring job.origin job.number with job := job.number }
  let ending ← runFrom engine start do
    Run.spend startTime
    -- what comes at once comes before signals are ignored
    poll engine
    Run.change fun process =>
      { process with ignoredSignals := process.ignoredSignals ++ terminalSignals }
    Run.setDescriptor 0 (some ⟨.null, .reading⟩)
    match job.body with
    | .pipeline stages =>
      let ending ← runStages engine false false none (← Run.process).clock stages
      Run.waitUntil ending.time
      Run.setStatus ending.status
      if ending.signal ≠ 0 then throw (.killed ending.signal)
    | body => engine false (.last body)
  -- a signal without an action ends the job when it arrives
  let killer := job.signals.find? (·.number = ending.signal)
  let ends := (killer.map (·.time)).getD ending.time
  let ended := { job with ends, status := ending.status, signal := ending.signal }
  Run.changeWorld fun world => { world with
    jobs := ended :: world.jobs
    streams := world.streams.map fun stream => { stream with
      chunks := stream.chunks.filter fun chunk => chunk.job ≠ job.number || chunk.time ≤ ends } }

/-- Runs jobs again for which signals have turned up before their end. -/
def resumeJobs (engine : Engine) : Run Unit := do
  let world ← Run.world
  if world.signals.isEmpty then return ()
  world.jobs.forM fun job => do
    let arrived := world.signals.filter fun signal =>
      signal.target = job.number && signal.time < job.ends
    Run.changeWorld fun world => { world with
      signals := world.signals.filter (·.target ≠ job.number) }
    if !arrived.isEmpty then runJob engine { job with signals := job.signals ++ arrived }

def startJob (engine : Engine) (body : Command) : Run Unit := do
  let number ← Run.newNumber
  let origin ← Run.process
  runJob engine { number, body, origin }
  let jobs := (← Run.world).jobs
  Run.change fun process =>
    -- jobs that have ended and were waited for make room
    let standing := process.started.filter fun job =>
      !job.waited || jobs.any fun record =>
        record.number = job.number && process.clock < record.ends
    let taken := standing.map (·.position)
    let free := (List.range (taken.length + 1)).map (· + 1) |>.find? (· ∉ taken)
    { process with
      lastJob := some number, status := 0
      started := ⟨free.getD 1, number, false⟩ :: standing }

/-- Takes the signals that have arrived, for jobs and for the shell itself. -/
def settle (engine : Engine) : Run Unit := do
  resumeJobs engine
  poll engine

/-- Ends the shell after a failure, if that is asked for. -/
def checkFailure (tested : Bool) : Run Unit := do
  let process ← Run.process
  if !tested && process.status ≠ 0 && process.options.contains 'e' then throw .exited

/-- Runs a command with an engine for the commands inside. -/
def perform (engine : Engine) (tested : Bool) : Command → Run Unit
  | .simple line assignments words redirections => do
    runSimple engine tested false line assignments words redirections
    settle engine
    checkFailure tested
  | .sequence commands => do
    if commands.isEmpty then Run.setStatus 0
    commands.forM (engine tested)
  | .conditional onSuccess first second => do
    engine true first
    let succeeded : Bool := (← Run.process).status = 0
    if succeeded = onSuccess then engine tested second
  | .negated body => do
    engine true body
    Run.setStatus (if (← Run.process).status = 0 then 1 else 0)
  | .pipeline stages => do
    await (← runStages engine tested true none (← Run.process).clock stages)
    settle engine
    checkFailure tested
  | .background body => startJob engine body
  | .loop whileSuccess condition body =>
    insideLoop (runLoop engine tested whileSuccess condition body maxRounds 0)
  | .choice condition onSuccess onFailure => do
    engine true condition
    if (← Run.process).status = 0 then engine tested onSuccess else engine tested onFailure
  | .each line name words body => do
    Run.change fun process => { process with line }
    let values ← match words with
      | some words => expandWords (substitute engine) words
      | none => pure (← Run.process).positionals
    if values.isEmpty then Run.setStatus 0
    insideLoop (runEach engine tested name body values)
  | .select line subject cases => do
    Run.change fun process => { process with line }
    let subject ← expandText (substitute engine) subject
    runCases engine tested subject.toList cases
  | .redirected line body redirections => do
    Run.change fun process => { process with line }
    withRedirections engine redirections (engine tested body)
  | .subshell line body redirections => do
    Run.change fun process => { process with line }
    let prepared ← prepareAll engine redirections
    inSubshell engine do
      if ← redirectAll engine prepared then engine tested (.last body) else Run.setStatus 2
    settle engine
    checkFailure tested
  | .function name body => do
    Run.change fun process =>
      { process with functions := (name, body) :: process.functions.filter (·.1 ≠ name) }
    Run.setStatus 0
  | .last (.simple line assignments words redirections) => do
    runSimple engine tested true line assignments words redirections
    settle engine
    checkFailure tested
  | .last (.subshell line body redirections) => do
    -- what is left of the process is as good as another one
    if ← awaitsSignals then engine tested (.subshell line body redirections)
    else
      Run.change fun process => { process with line }
      let prepared ← prepareAll engine redirections
      if ← redirectAll engine prepared then engine tested (.last body) else Run.setStatus 2
  | .last body => engine tested body.withLast

/-- Runs a command, unless commands are only read. -/
def step (engine : Engine) (tested : Bool) (command : Command) : Run Unit := do
  if ← Run.hasOption 'n' then return ()
  perform engine tested command

def maxDepth : Nat := 20000

/-- Runs a command, down to a depth. -/
def run : (depth : Nat) → Engine
  | 0, _, _ => throw .exhausted
  | depth + 1, tested, command => step (run depth) tested command

end ArtifactRelease.Shell
