import ArtifactRelease.Shell.Builtin

/-!
# Shells inside of shells

A script is read line by line, and each line is run before the next is read.  Parts of a script run
in a process of their own, whose end is seen by the shell that started it.  What runs the commands
is left open here.
-/

namespace ArtifactRelease.Shell

/-- Runs a command; `tested` if its failure is looked at, so that it does not end the shell. -/
abbrev Engine := (tested : Bool) → Command → Run Unit

def startTime : Time := 1000

/-- Runs something and gives the reason, if it does not end in the ordinary course. -/
def attempt (action : Run Unit) : Run (Option Stop) := do
  try
    action
    return none
  catch stop => return some stop

/-- Runs a script line by line, and tells whether there was something to run.  What cannot be read
ends the shell. -/
def runText (engine : Engine) (tested : Bool) : (fuel : Nat) → Source → Run Bool
  | 0, _ => return false
  | fuel + 1, source => do
    match readLine (← Run.process).aliases source with
    | .error fault =>
      Run.change fun process => { process with line := fault.line }
      Run.abort fault.message
    | .ok (none, _) => return false
    | .ok (some command, source) =>
      Run.change fun process => { process with sourceLine := source.passDocuments.line }
      engine tested command
      let _ ← runText engine tested fuel source
      return true

/-- Runs a script from its text; one without commands succeeds. -/
def runScript (engine : Engine) (tested : Bool) (script : List Char) : Run Unit := do
  let sourceLine := (← Run.process).sourceLine
  let ran ← runText engine tested (script.length + 1) (Source.ofText [] script)
  if !ran then Run.setStatus 0
  Run.change fun process => { process with sourceLine }

def runAction (engine : Engine) (action : String) : Run Unit := do
  let process ← Run.process
  Run.change fun process => { process with
    inAction := some (process.inAction.getD ⟨process.status, process.functionDepth⟩) }
  let stop ← attempt (runScript engine false action.toList)
  Run.change fun inner => { inner with inAction := process.inAction }
  match stop with
  | some stop => throw stop
  | none => return ()

/-- Acts on a signal: by the action for it, or else by ending. -/
def deliver (engine : Engine) (signal : Nat) : Run Unit := do
  let process ← Run.process
  if signal ∈ process.ignoredSignals then return ()
  match (process.traps.find? (·.1 = signal)).filter fun _ => !Signals.isForced signal with
  | some (_, action) =>
    runAction engine action
    Run.setStatus process.status
  | none => if Signals.isHarmless signal then return () else throw (.killed signal)

def poll (engine : Engine) : Run Unit := do
  let machine ← get
  if machine.world.signals.isEmpty then return ()
  let process := machine.process
  let isDue (signal : Signal) : Bool :=
    signal.target = process.number && signal.time ≤ process.clock
  let due := machine.world.signals.filter isDue
  Run.changeWorld fun world => { world with signals := world.signals.filter (!isDue ·) }
  due.forM fun signal => deliver engine signal.number

/-- Runs a shell to its end, with the action for the end.  The result is the signal that killed it,
or zero. -/
def conclude (engine : Engine) (action : Run Unit) : Run Nat := do
  match ← attempt (do action; poll engine) with
  | some (.killed signal) => return signal
  | some .exhausted => return Signals.kill
  | some .replaced => return 0
  | _ =>
    let process ← Run.process
    match process.traps.find? (·.1 = 0) with
    | none => return 0
    | some (_, action) =>
      Run.change fun process => { process with traps := process.traps.filter (·.1 ≠ 0) }
      match ← attempt (runAction engine action) with
      | some (.killed signal) => return signal
      | some .exited | some .failed => return 0
      | _ =>
        Run.setStatus process.status
        return 0

structure Ending where
  status : Nat
  signal : Nat
  time : Time

/-- A process that another one has just started, with a number. -/
def offspring (outer : Process) (number : Nat) : Process :=
  { outer with
    traps := outer.traps.filter (·.2.isEmpty)
    number, ancestors := outer.number :: outer.ancestors, started := [] }

/-- Runs something in a process that starts as given, until its end. -/
def runFrom (engine : Engine) (start : Process) (action : Run Unit) : Run Ending := do
  let current ← Run.process
  Run.change fun _ => start
  let signal ← conclude engine action
  let inner ← Run.process
  Run.change fun _ => current
  return ⟨if signal = 0 then inner.status % 256 else 128 + signal, signal, inner.clock⟩

/-- Runs something in a process of its own, which starts as `start` makes it. -/
def inProcess (engine : Engine) (start : Process → Process) (action : Run Unit) : Run Ending := do
  let number ← Run.newNumber
  runFrom engine (start (offspring (← Run.process) number)) action

/-- Reports a process that a signal has ended, at the time of that. -/
def reportEnding (ending : Ending) : Run Unit := do
  let now := (← Run.process).clock
  Run.waitUntil ending.time
  if ending.signal ≠ 0 then Builtin.report ending.signal
  Run.change fun process => { process with clock := now }

def await (ending : Ending) : Run Unit := do
  reportEnding ending
  Run.waitUntil ending.time
  Builtin.noteEnding
  Run.setStatus ending.status

def inSubshell (engine : Engine) (action : Run Unit) : Run Unit := do
  await (← inProcess engine id (do Run.spend startTime; action))

/-- Runs a script inside of a word; the line ends behind its output are dropped. -/
def substitute (engine : Engine) : Substitute := fun script => do
  let status := (← Run.process).status
  let index ← Run.newStream
  inSubshell engine do
    Run.setDescriptor 1 (some ⟨.stream index, .writing⟩)
    engine false (.last script)
  let content := ((← Run.world).streams.getD index {}).content
  Run.change fun process => { process with substituted := some process.status, status }
  let text := (ofBytes content.bytes).filter (·.toNat ≠ 0)
  return (text.reverse.dropWhile (· = '\n')).reverse

end ArtifactRelease.Shell
