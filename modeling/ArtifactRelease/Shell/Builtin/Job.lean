import ArtifactRelease.Shell.Builtin.Variable
import ArtifactRelease.Shell.Signals

/-!
# Signals and jobs

Actions for signals, sending them, and waiting for jobs in the background.
-/

namespace ArtifactRelease.Shell.Builtin

def trapLines (traps : List (Nat × String)) : String :=
  let sorted := traps.mergeSort fun first second => first.1 ≤ second.1
  String.join (sorted.map fun (number, action) =>
    s!"trap -- {singleQuoted action} {(Signals.name? number).getD (toString number)}\n")

/-- Sets an action for signals, up to one that is not known; without an action they have their
usual effects. -/
def setTraps (action : Option String) : List String → Run Nat
  | [] => return 0
  | signal :: later => do
    match Signals.number? signal with
    | some number =>
      Run.change fun process =>
        let others := process.traps.filter (·.1 ≠ number)
        { process with traps := (action.map (number, ·)).toList ++ others }
      setTraps action later
    | none =>
      let _ ← Run.write 2 s!"trap: {signal}: bad trap\n".toList
      return 1

def trap (arguments : List String) : Run Nat := do
  match ← operands arguments with
  | [] => output "trap" (trapLines (← Run.process).traps).toList 0
  | first :: later =>
    -- a number in the first place is no action
    let isNumber : Bool := first.toList.all Char.isDigit && (Signals.number? first).isSome
    if later.isEmpty || isNumber then setTraps none (first :: later)
    else setTraps (if first = "-" then none else some first) later

/-- Sends a signal to a process: a job in the background, the shell itself, or one above it. -/
def send (signal target : Nat) : Run Bool := do
  let machine ← get
  let process := machine.process
  let isJob : Bool := machine.world.jobs.any (·.number = target)
  if isJob || target = process.number || target ∈ process.ancestors then
    if signal ≠ 0 then
      let sent : Signal := ⟨process.clock, target, signal, process.job⟩
      Run.changeWorld fun world => { world with signals := world.signals ++ [sent] }
    return true
  else return false

/-- The job that a text behind a percent sign names, or none in its place: the current one, the one
before that, or one by its position. -/
def jobNamed (text : String) : Run StartedJob := do
  let started := (← Run.process).started
  let missing : Run StartedJob := Run.abort s!"No such job: {text}"
  match text.toList with
  | [] | ['%'] | ['%', '%'] | ['%', '+'] =>
    match started with
    | current :: _ => return current
    | [] => Run.abort "No current job"
  | ['%', '-'] =>
    match started with
    | _ :: previous :: _ => return previous
    | _ => Run.abort "No previous job"
  | '%' :: position =>
    match started.find? fun job => some job.position = (String.ofList position).toNat? with
    | some job => return job
    | none => missing
  | _ => missing

def killUsage : String :=
  "Usage: kill [-s sigspec | -signum | -sigspec] [pid | job]... or\nkill -l [exitstatus]"

def killEach (signal : Nat) (targets : List String) : Run Nat := do
  targets.foldlM (fun status target => do
    if target.toList.head? = some '%' then
      -- the processes of a job are no group of their own in a script
      let _ ← jobNamed target
      Run.complain "No such process\n"
      return 1
    -- a hyphen in front of the number names a group of processes
    let (toGroup, digits) := match target.toList with
      | '-' :: digits => (true, digits)
      | digits => (false, digits)
    let number ← number (String.ofList digits)
    -- the first process ignores signals, and there are always processes that could get one
    let reached : Bool := if toGroup then signal = 0 && number = 1
      else number = 1 || (signal = 0 && number = 0)
    if reached then return status
    else if !toGroup && (← send signal number) then return status
    else
      Run.complain "No such process\n"
      return 1) 0

/-- Shows all signals, or the one that a number stands for or that a status tells of. -/
def listSignals (arguments : List String) : Run Nat := do
  match arguments with
  | [] =>
    output "kill" (String.join (("0" :: Signals.names).map (· ++ "\n"))).toList 0
  | argument :: _ =>
    let code ← number argument
    match Signals.names[(if 128 < code then code - 128 else code) - 1]? with
    | some name =>
      if code = 0 then failure s!"invalid signal number or exit status: {argument}"
      else output "kill" (name ++ "\n").toList 0
    | none => failure s!"invalid signal number or exit status: {argument}"

/-- Sends or lists signals, as the options say. -/
def killByOptions (arguments : List String) : Run Nat := do
  let (options, targets) ← readOptions ['l'] ['s'] (arguments.length + 1) arguments
  let named := (options.filter (·.1 = 's')).map (·.2)
  match named.find? fun name => (Signals.sendable? name).isNone with
  | some name => failure s!"invalid signal number or name: {name}"
  | none =>
    let lists : Bool := options.any (·.1 = 'l')
    if lists then
      if !named.isEmpty && !targets.isEmpty then failure killUsage else listSignals targets
    else if targets.isEmpty then failure killUsage
    else killEach ((named.getLast?.bind Signals.sendable?).getD Signals.terminate) targets

def kill (arguments : List String) : Run Nat := do
  match arguments with
  | [] => failure killUsage
  | first :: targets =>
    match first.toList with
    | '-' :: name =>
      match Signals.sendable? (String.ofList name) with
      | some signal => if targets.isEmpty then failure killUsage else killEach signal targets
      | none => killByOptions arguments
    | _ => killEach Signals.terminate arguments

/-- The first signal that comes up to some time and has an action. -/
def awaited (deadline : Time) : Run (Option Signal) := do
  let machine ← get
  let process := machine.process
  return machine.world.signals.find? fun signal =>
    signal.target = process.number && signal.time ≤ deadline
      && process.traps.any fun (number, action) => number = signal.number && !action.isEmpty

def report (signal : Nat) : Run Unit := do
  match Signals.report? signal with
  | some text =>
    let _ ← Run.write 2 (text ++ "\n").toList
  | none => pure ()

/-- Tells the shell that a process it has waited for has ended, if there is an action for that. -/
def noteEnding : Run Unit := do
  let process ← Run.process
  if process.traps.any fun (number, action) => number = Signals.childEnded && !action.isEmpty then
    let signal : Signal := ⟨process.clock, process.number, Signals.childEnded, process.job⟩
    Run.changeWorld fun world => { world with signals := world.signals ++ [signal] }

/-- Waits for a job; a signal with an action cuts the waiting short. -/
def waitFor (job : Job) : Run Nat := do
  match ← awaited job.ends with
  | some signal =>
    Run.waitUntil signal.time
    return 128 + signal.number
  | none =>
    Run.waitUntil job.ends
    noteEnding
    return job.status

def markWaited (number : Nat) : Run Unit :=
  Run.change fun process => { process with
    started := process.started.map fun job =>
      if job.number = number then { job with waited := true } else job }

def wait (arguments : List String) : Run Nat := do
  match ← operands arguments with
  | [] =>
    let ends := ((← Run.world).jobs.map (·.ends)).foldl max 0
    match ← awaited ends with
    | some signal =>
      Run.waitUntil signal.time
      return 128 + signal.number
    | none =>
      Run.waitUntil ends
      noteEnding
      (← Run.process).started.forM fun job => markWaited job.number
      return 0
  | targets =>
    targets.foldlM (fun _ target => do
      let number ← if target.toList.head? = some '%' then (·.number) <$> jobNamed target
        else number target
      match (← Run.world).jobs.find? (·.number = number) with
      | some job =>
        let status ← waitFor job
        markWaited number
        if job.signal ≠ 0 && status = job.status then report job.signal
        return status
      | none => return 127) 0

end ArtifactRelease.Shell.Builtin
