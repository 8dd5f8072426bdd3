import ArtifactRelease.Child.Output
import ArtifactRelease.Log

/-!
# Running a child process

While a child runs, chunks of its two streams, the ends of the streams and its exit arrive in some
order.  Every complete line is logged at once.  When all is over the exit status decides: success
gives the standard output, if it was kept, and any other status the standard error.
-/

namespace ArtifactRelease.Child

open ArtifactRelease.Log (Stream)

inductive Status where
  | exited (code : Nat)
  | killed
  deriving Repr, DecidableEq

def Status.code : Status → Int
  | exited code => code
  | killed => -1

/-- What can be seen of a running child. -/
inductive Event where
  | chunk (stream : Stream) (bytes : List UInt8)
  | endOfFile (stream : Stream)
  | exit (status : Status)
  deriving Repr, DecidableEq

/-- One stream of a child: its bytes, and its lines as they come. -/
structure Pump where
  buffer : Buffer
  splitter : LineSplitter := {}
  deriving Repr, DecidableEq

structure Session where
  stdout : Pump
  stderr : Pump
  status : Option Status := none
  deriving Repr, DecidableEq

namespace Session

/-- The standard error is always kept, the standard output if it is wanted. -/
def start (command : Command) : Session :=
  { stdout := ⟨⟨command.captures, []⟩, {}⟩, stderr := ⟨⟨true, []⟩, {}⟩ }

def pump (session : Session) : Stream → Pump
  | .stdout => session.stdout
  | .stderr => session.stderr

def setPump (session : Session) (pump : Pump) : Stream → Session
  | .stdout => { session with stdout := pump }
  | .stderr => { session with stderr := pump }

def step (session : Session) : Event → Session × List Log.Event
  | .chunk stream bytes =>
    let pump := session.pump stream
    let (splitter, lines) := pump.splitter.push bytes
    (session.setPump ⟨pump.buffer.push bytes, splitter⟩ stream,
      lines.map (Log.Event.childLine stream))
  | .endOfFile stream =>
    let pump := session.pump stream
    (session.setPump { pump with splitter := {} } stream,
      pump.splitter.finish.map (Log.Event.childLine stream))
  | .exit status => ({ session with status := some status }, [])

/-- Takes events in order; the logged lines are collected in order. -/
def run : Session → List Event → Session × List Log.Event
  | session, [] => (session, [])
  | session, event :: later =>
    let (session, logged) := session.step event
    let (session, loggedLater) := run session later
    (session, logged ++ loggedLater)

def outcome (session : Session) (program : String) : Outcome :=
  match session.status with
  | some (.exited 0) => .ok session.stdout.buffer.text
  | some status => .error (.unsuccessful program status.code session.stderr.buffer.text)
  | none => .error (.brokenPipe program "the child has not ended")

end Session

/-- An attempt to start a command: the reason why it could not be started, or what the child does.
-/
abbrev Launch := Except String (List Event)

/-- What comes of a command, and what is logged about it. -/
structure Answer where
  outcome : Outcome
  logged : List Log.Event := []

def endingEvents (program : String) : Outcome → List Log.Event
  | .ok _ => [.childSucceeded program]
  | .error (.unsuccessful _ code _) => [.childFailed program code]
  | .error _ => []

def execute (command : Command) : Launch → Answer
  | .error reason =>
    ⟨.error (.notStarted command.program reason), [.spawning command]⟩
  | .ok events =>
    let (session, logged) := (Session.start command).run events
    let outcome := session.outcome command.program
    ⟨outcome, .spawning command :: (logged ++ endingEvents command.program outcome)⟩

/-- The events of a child that writes its two streams and then ends, in chunks of at most `size`
bytes. -/
def chunks (size : Nat) (bytes : List UInt8) : List (List UInt8) :=
  (List.range ((bytes.length + size - 1) / size)).map fun index =>
    (bytes.drop (index * size)).take size

/-- How much of a pipe is read at once. -/
def chunkSize : Nat := 8 * 1024

/-- The events of a child, its standard output first. -/
def outputEvents (stdout stderr : List UInt8) (status : Status) : List Event :=
  (chunks chunkSize stdout).map (Event.chunk .stdout)
    ++ (chunks chunkSize stderr).map (Event.chunk .stderr)
    ++ [.endOfFile .stdout, .endOfFile .stderr, .exit status]

end ArtifactRelease.Child
