import ArtifactRelease.CommandLine.Run
import ArtifactRelease.Shell.Program
import Std.Time.DateTime.Timestamp

/-!
# The command line program

Performs the plan of an invocation: commands are run by the programs that are always there,
workflow commands and results go to standard output, the log goes to standard error, and the
clocks are those of the machine.
-/

namespace ArtifactRelease.Main

open ArtifactRelease.CommandLine

def usage : String :=
  "Usage: deploy-task-script [OPTIONS] [COMMAND]\n\n"
    ++ "Commands:\n"
    ++ "  publish       Build the task scripts and read the artifact list\n"
    ++ "  meta          Print the build metadata of the current checkout\n"
    ++ "  validate-tag  Check that a release tag is new and not reserved\n"
    ++ "  help          Print this message\n\n"
    ++ "Options:\n"
    ++ "      --log-level <LOG_LEVEL>  Log filter\n"
    ++ "  -h, --help                   Print help\n"
    ++ "  -V, --version                Print version\n"

def wallClock : IO Instant := do
  let now ← Std.Time.Timestamp.now
  let nanoseconds := now.toNanosecondsSinceUnixEpoch.val
  return ⟨nanoseconds.fdiv 1000000000, (nanoseconds.fmod 1000000000).toNat⟩

def stopwatch : IO Duration := do
  return Duration.ofNanoseconds (← IO.monoNanosNow)

def randomBits : IO (BitVec 128) := do
  let bytes ← IO.getRandomBytes 16
  return BitVec.ofNat 128 (bytes.toList.foldl (fun bits byte => bits * 256 + byte.toNat) 0)

def logged (filter : LogFilter) (spans : List Log.Span) (event : Log.Event) : IO Unit := do
  if filter.shows spans event then IO.eprintln (event.line spans.reverse)

/-- Writes and flushes, and gives the reason if that is refused. -/
def written (text : String) : IO (Except String Unit) := do
  try
    let stdout ← IO.getStdout
    stdout.putStr text
    stdout.flush
    return .ok ()
  catch refusal => return .error (toString refusal)

/-- Performs a plan in the world of this process, inside some spans, the innermost first. -/
def enact {α : Type} (filter : LogFilter) (spans : List Log.Span) : Plan α → IO α
  | .done value => return value
  | .run command next => do
    let answer := Child.execute command (Shell.launch command)
    answer.logged.forM (logged filter spans)
    enact filter spans (next answer.outcome)
  | .announce command next => do
    enact filter spans (next (← written (String.ofList command.line)))
  | .print text next => do
    let _ ← written text
    enact filter spans next
  | .log event next => do
    logged filter spans event
    enact filter spans next
  | .enter span next => enact filter (span :: spans) next
  | .leave next => enact filter spans.tail next
  | .wallClock next => do enact filter spans (next (← wallClock))
  | .stopwatch next => do enact filter spans (next (← stopwatch))
  | .random next => do enact filter spans (next (← randomBits))

def environment : IO Environment := do
  let names := filterName :: Environment.settingNames
  let values ← names.mapM fun name => do return (name, ← IO.getEnv name)
  return fun name => (values.find? (·.1 = name)).bind (·.2)

def run (arguments : List String) : IO UInt32 := do
  match parse arguments with
  | .misuse =>
    IO.eprint usage
    return 2
  | .help =>
    IO.print usage
    return 0
  | .version =>
    IO.print versionText
    return 0
  | .perform invocation =>
    let environment ← environment
    match logFilter environment invocation.logLevel with
    | .error _ =>
      IO.eprintln "the log filter cannot be divided into its parts"
      return breakdownCode.toUInt32
    | .ok filter =>
      match ← enact filter [] (perform environment.settings invocation.operation) with
      | .ok () => return 0
      | .error text =>
        IO.eprintln text
        return 1

end ArtifactRelease.Main

def main (arguments : List String) : IO UInt32 :=
  ArtifactRelease.Main.run arguments
