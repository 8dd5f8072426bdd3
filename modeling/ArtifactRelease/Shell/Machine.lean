import ArtifactRelease.Shell.Arithmetic
import ArtifactRelease.Shell.Glob
import ArtifactRelease.Shell.Place

/-!
# The state of shells

Several shells can run side by side: a script starts subshells, pipelines and background jobs.  Each
shell has variables, descriptors and a clock of its own; they share a world of streams and files.

Nothing really runs side by side.  A background job is run when it is started, on its own clock, and
what it writes is stamped with the time.  In the end everything that was written to a stream is put
in the order of the stamps.
-/

namespace ArtifactRelease.Shell

/-- A point in time, in microseconds since the first shell was started. -/
abbrev Time := Nat

structure Chunk where
  time : Time
  /-- The background job that wrote it, or zero. -/
  job : Nat
  bytes : List UInt8
  deriving Repr

structure Stream where
  /-- What was written, last first. -/
  chunks : List Chunk := []
  /-- What is written over and over after that, if anything. -/
  endless : List UInt8 := []
  /-- How many bytes a shell can still write; one that has more to write is cut off. -/
  room : Option Nat := none
  /-- Whether a writer was cut off. -/
  isCut : Bool := false
  deriving Repr, Inhabited

/-- Bytes to read: some, then perhaps others over and over. -/
structure Content where
  bytes : List UInt8 := []
  endless : List UInt8 := []
  deriving Repr, Inhabited

namespace Content

/-- The first bytes. -/
def take (content : Content) (count : Nat) : List UInt8 :=
  let missing := count - content.bytes.length
  if content.endless.isEmpty || missing = 0 then content.bytes.take count
  else
    let rounds := missing / content.endless.length + 1
    content.bytes ++ ((List.replicate rounds content.endless).flatten).take missing

/-- All bytes, or as many of endless ones as anyone looks at who stops reading by himself. -/
def excerpt (content : Content) : List UInt8 :=
  if content.endless.isEmpty then content.bytes
  else
    let rounds := 10000 / content.endless.length + 1
    content.bytes ++ (List.replicate rounds content.endless).flatten

end Content

structure Supply where
  content : Content := {}
  /-- When the writer is through. -/
  readyAt : Time := 0
  /-- Whether someone has read it to its end. -/
  drained : Bool := false
  deriving Repr, Inhabited

structure OpenFile where
  path : Path
  position : Nat := 0
  appends : Bool := false
  deriving Repr, Inhabited

inductive Channel where
  | stream (index : Nat)
  | supply (index : Nat)
  | file (index : Nat)
  | null
  | zeros
  | full
  /-- A directory, which nothing can be read from. -/
  | directory
  deriving Repr, DecidableEq

inductive Access where
  | reading
  | writing
  | both
  deriving Repr, DecidableEq

/-- A channel, and what it may be used for. -/
structure Opening where
  channel : Channel
  access : Access
  deriving Repr, DecidableEq

structure Signal where
  time : Time
  target : Nat
  number : Nat
  /-- The background job that sent it, or zero. -/
  sender : Nat := 0
  deriving Repr, DecidableEq

structure Binding where
  value : Option String := none
  exported : Bool := false
  fixed : Bool := false
  deriving Repr

/-- A job in the background, as the shell that started it sees it. -/
structure StartedJob where
  /-- The number of the job among those of the shell. -/
  position : Nat
  /-- The number of its process. -/
  number : Nat
  /-- Whether the shell has waited for it. -/
  waited : Bool := false
  deriving Repr, DecidableEq

/-- How far the reading of options from arguments has come. -/
structure OptionPosition where
  /-- The number of the next argument. -/
  index : Nat := 1
  /-- How much of the argument before that has been read, unless all of it. -/
  offset : Option Nat := none
  deriving Repr

structure RunningAction where
  /-- The status before it. -/
  status : Nat
  /-- How many calls of functions were open before it. -/
  functionDepth : Nat
  deriving Repr

structure Process where
  /-- What the shell was started as. -/
  name : String := "sh"
  number : Nat := 4242
  /-- The numbers of the processes above this one, the nearest first. -/
  ancestors : List Nat := [4241]
  /-- The number of the shell that the script belongs to, which its subshells show as well. -/
  scriptNumber : Nat := 4242
  positionals : List String := []
  bindings : List (String × Binding) := []
  functions : List (String × Command) := []
  aliases : Aliases := []
  /-- The programs that were searched for and found, the latest first. -/
  found : List String := []
  optionPosition : OptionPosition := {}
  /-- The permissions that new files are not given. -/
  mask : Nat := 0o022
  /-- The letters of the options that are on. -/
  options : List Char := []
  /-- Actions for signals, by number; zero is the end of the shell. -/
  traps : List (Nat × String) := []
  /-- The action for a signal that the shell is in, if any. -/
  inAction : Option RunningAction := none
  /-- Signals that were of no concern from the start. -/
  ignoredSignals : List Nat := []
  descriptors : List (Nat × Opening) :=
    [(0, ⟨.null, .reading⟩), (1, ⟨.stream 0, .writing⟩), (2, ⟨.stream 1, .writing⟩)]
  /-- The directory that paths start from. -/
  directory : Path := []
  /-- The directory by the name under which the shell came to it. -/
  directoryName : String := "/"
  /-- The status of the last command. -/
  status : Nat := 0
  /-- The status of the last script inside of a word, if the command had one. -/
  substituted : Option Nat := none
  lastJob : Option Nat := none
  /-- The jobs in the background that this shell started, the latest first. -/
  started : List StartedJob := []
  /-- The background job that this shell is part of, or zero. -/
  job : Nat := 0
  clock : Time := 0
  line : Nat := 1
  /-- How far the script has been read. -/
  sourceLine : Nat := 1
  loops : Nat := 0
  functionDepth : Nat := 0
  /-- The command or file that the current script belongs to, which is named in complaints. -/
  speaker : Option String := none
  /-- What the variables of the current function were before. -/
  locals : List (String × Option Binding) := []
  /-- What the options were before, if they belong to the current function. -/
  localOptions : Option (List Char) := none

/-- A process that was started in the background.  It is run again from its start when a signal for
it turns up. -/
structure Job where
  number : Nat
  body : Command
  /-- The shell as it was when it started the job. -/
  origin : Process
  /-- The signals that were sent to it. -/
  signals : List Signal := []
  ends : Time := 0
  status : Nat := 0
  /-- The signal that ended it, or zero. -/
  signal : Nat := 0

structure World where
  streams : Array Stream := #[{}, {}]
  supplies : Array Supply := #[]
  openFiles : Array OpenFile := #[]
  system : FileSystem := {}
  jobs : List Job := []
  signals : List Signal := []
  nextNumber : Nat := 4243

structure Machine where
  process : Process := {}
  world : World := {}

inductive Stop where
  /-- The shell ends with its status. -/
  | exited
  /-- Something is wrong, which ends the shell unless a command takes the blame. -/
  | failed
  /-- Another program took the place of the shell and has ended. -/
  | replaced
  | killed (signal : Nat)
  | left (loops : Nat)
  | repeated (loops : Nat)
  /-- A function or a script is left, with a status of its own if that is `given`. -/
  | returned (given : Bool)
  /-- The steps that were granted are used up. -/
  | exhausted
  deriving Repr, DecidableEq

abbrev Run := ExceptT Stop (StateM Machine)

namespace Run

def process : Run Process := do
  return (← get).process

def world : Run World := do
  return (← get).world

def change (f : Process → Process) : Run Unit :=
  modify fun machine => { machine with process := f machine.process }

def changeWorld (f : World → World) : Run Unit :=
  modify fun machine => { machine with world := f machine.world }

def setStatus (status : Nat) : Run Unit :=
  change fun process => { process with status }

def spend (time : Time) : Run Unit :=
  change fun process => { process with clock := process.clock + time }

def waitUntil (time : Time) : Run Unit :=
  change fun process => { process with clock := max process.clock time }

/-! ## Variables -/

def binding? (name : String) : Run (Option Binding) := do
  return ((← process).bindings.find? (·.1 = name)).map (·.2)

def value? (name : String) : Run (Option String) := do
  return (← binding? name).bind (·.value)

def setBinding (name : String) (content : Option Binding) : Run Unit :=
  change fun process =>
    let others := process.bindings.filter (·.1 ≠ name)
    { process with bindings := match content with
      | some content => (name, content) :: others
      | none => others }

def hasOption (letter : Char) : Run Bool := do
  return letter ∈ (← process).options

/-! ## Writing -/

def opening? (descriptor : Nat) : Run (Option Opening) := do
  return ((← process).descriptors.find? (·.1 = descriptor)).map (·.2)

/-- What is read from a descriptor, if it may be. -/
def source? (descriptor : Nat) : Run (Option Channel) := do
  return ((← opening? descriptor).filter (·.access ≠ .writing)).map (·.channel)

/-- What is written to by a descriptor, if it may be. -/
def sink? (descriptor : Nat) : Run (Option Channel) := do
  return ((← opening? descriptor).filter (·.access ≠ .reading)).map (·.channel)

def writeFile (index : Nat) (bytes : List UInt8) : Run Unit :=
  changeWorld fun world =>
    match world.openFiles[index]? with
    | none => world
    | some opened =>
      let old := match world.system.place opened.path with
        | .file content => content
        | _ => []
      let position := if opened.appends then old.length else opened.position
      let content := old.take position ++ List.replicate (position - old.length) 0 ++ bytes
        ++ old.drop (position + bytes.length)
      { world with
        system := world.system.set opened.path (.file content)
        openFiles :=
          world.openFiles.setIfInBounds index { opened with position := position + bytes.length } }

/-- Writes bytes to a channel, if that takes any. -/
def writeTo (channel : Option Channel) (bytes : List UInt8) : Run Bool := do
  if bytes.isEmpty then return true
  match channel with
  | some (.stream index) =>
    let process ← process
    let chunk : Chunk := ⟨process.clock, process.job, bytes⟩
    changeWorld fun world => { world with
      streams := world.streams.modify index fun stream =>
        { stream with chunks := chunk :: stream.chunks } }
    return true
  | some (.file index) =>
    writeFile index bytes
    return true
  | some .null | some .zeros => return true
  | some .full | some .directory | some (.supply _) | none => return false

/-- The signal for those who write to a pipe that nobody reads. -/
def brokenPipe : Nat := 13

/-- Takes room in a stream, if there is any left. -/
def takeRoom (index count : Nat) : Run Bool := do
  let stream := (← world).streams.getD index {}
  match stream.room with
  | none => return true
  | some room =>
    let changed := if count ≤ room then { stream with room := some (room - count) }
      else { stream with room := some 0, isCut := true }
    changeWorld fun world => { world with streams := world.streams.setIfInBounds index changed }
    return count ≤ room

/-- Writes bytes to a descriptor.  A shell that writes more than anyone reads is ended, unless it is
prepared for that. -/
def writeBytes (descriptor : Nat) (bytes : List UInt8) : Run Bool := do
  let channel ← sink? descriptor
  match channel with
  | some (.stream index) =>
    if ← takeRoom index bytes.length then writeTo channel bytes
    else
      let process ← process
      if brokenPipe ∈ process.ignoredSignals || process.traps.any (·.1 = brokenPipe) then
        return false
      else throw (.killed brokenPipe)
  | _ => writeTo channel bytes

def write (descriptor : Nat) (text : List Char) : Run Bool :=
  writeBytes descriptor (bytesOf text)

def writeContent (descriptor : Nat) (content : Content) : Run Bool := do
  let channel ← sink? descriptor
  let done ← writeTo channel content.bytes
  match channel with
  | some (.stream index) =>
    if !content.endless.isEmpty then
      changeWorld fun world => { world with
        streams := world.streams.modify index fun stream =>
          { stream with endless := content.endless } }
  | _ => pure ()
  return done

/-- Says on the error stream what is wrong, with the name of the shell and the line. -/
def complain (text : String) : Run Unit := do
  let process ← process
  let speaker := (process.speaker.map (· ++ ": ")).getD ""
  let _ ← write 2 s!"{process.name}: {process.line}: {speaker}{text}\n".toList

def abort {α : Type} (text : String) : Run α := do
  complain text
  setStatus 2
  throw .failed

/-! ## Reading -/

/-- Takes everything there is to read on a descriptor. -/
def readAll (descriptor : Nat) : Run Content := do
  match ← source? descriptor with
  | some (.supply index) =>
    let supply := (← world).supplies.getD index {}
    waitUntil supply.readyAt
    changeWorld fun world => { world with
      supplies :=
        world.supplies.setIfInBounds index { supply with content := {}, drained := true } }
    return supply.content
  | some (.file index) =>
    let world ← world
    match world.openFiles[index]? with
    | some opened =>
      match world.system.place opened.path with
      | .file content =>
        let opened' := { opened with position := max opened.position content.length }
        changeWorld fun world => { world with
          openFiles := world.openFiles.setIfInBounds index opened' }
        return { bytes := content.drop opened.position }
      | _ => return {}
    | none => return {}
  | some .zeros | some .full => return { endless := [0] }
  | _ => return {}

def stopReading (descriptor : Nat) : Run Unit := do
  match ← source? descriptor with
  | some (.supply index) =>
    changeWorld fun world => { world with
      supplies := world.supplies.modify index fun supply => { supply with drained := false } }
  | _ => pure ()

def unread (descriptor : Nat) (content : Content) : Run Unit := do
  match ← source? descriptor with
  | some (.supply index) =>
    changeWorld fun world => { world with
      supplies := world.supplies.modify index fun supply => { supply with content } }
  | some (.file index) =>
    changeWorld fun world => { world with
      openFiles := world.openFiles.modify index fun opened =>
        { opened with position := opened.position - content.bytes.length } }
  | _ => pure ()

def supplyIndex (content : Content) (readyAt : Time) : Run Nat := do
  let index := (← world).supplies.size
  changeWorld fun world => { world with supplies := world.supplies.push { content, readyAt } }
  return index

def supply (content : Content) (readyAt : Time) : Run Channel := do
  return .supply (← supplyIndex content readyAt)

def newStream : Run Nat := do
  let index := (← world).streams.size
  changeWorld fun world => { world with streams := world.streams.push {} }
  return index

def newNumber : Run Nat := do
  let number := (← world).nextNumber
  changeWorld fun world => { world with nextNumber := number + 1 }
  return number

def setDescriptor (descriptor : Nat) (opening : Option Opening) : Run Unit :=
  change fun process =>
    let others := process.descriptors.filter (·.1 ≠ descriptor)
    { process with descriptors := match opening with
      | some opening => (descriptor, opening) :: others
      | none => others }

end Run

/-- What was written to a stream, in the order of time. -/
def Stream.content (stream : Stream) : Content :=
  let ordered := stream.chunks.reverse.mergeSort fun first second => first.time ≤ second.time
  { bytes := ordered.flatMap (·.bytes), endless := stream.endless }

end ArtifactRelease.Shell
