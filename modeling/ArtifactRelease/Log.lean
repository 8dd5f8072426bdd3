import ArtifactRelease.BuildConfig
import ArtifactRelease.Child.Command
import ArtifactRelease.Timing
import ArtifactRelease.Version
import ArtifactRelease.Workflow.Command

/-!
# Log events

What a deployment reports while it runs.  An event has a level and a text: the level, what it says,
and then the fields of the event.  A span is a stretch of the run with a name and fields of its
own, to which the events in it belong.
-/

namespace ArtifactRelease.Log

def programVersion : String := "0.1.0"

inductive Level where
  | trace
  | debug
  | info
  | warn
  | error
  deriving Repr, DecidableEq

namespace Level

def name : Level → String
  | trace => "TRACE"
  | debug => "DEBUG"
  | info => "INFO"
  | warn => "WARN"
  | error => "ERROR"

def weight : Level → Nat
  | trace => 1
  | debug => 2
  | info => 3
  | warn => 4
  | error => 5

end Level

inductive Stream where
  | stdout
  | stderr
  deriving Repr, DecidableEq

inductive Event where
  | starting (settings : Settings)
  | querying (query : String)
  | commitGiven (commit : String)
  | foundTags (tags : List String)
  | codeMeta (metadata : Metadata)
  | buildConfig (config : BuildConfig)
  | builderDisabled
  | builderCreated (location : ArtifactLocation)
  | resolvedLocation (location : ArtifactLocation)
  | publishing (location : ArtifactLocation)
  | listing (location : ArtifactLocation)
  | readList (count : Nat)
  | timing (label : String) (duration : Duration)
  | commandNotWritten (command : Workflow.Command) (reason : String)
  | spawning (command : Child.Command)
  | childLine (stream : Stream) (line : String)
  | childSucceeded (program : String)
  | childFailed (program : String) (code : Int)
  | tagAccepted (tag : String) (version : Version)
  | deployFinished (runId : String) (commit : String) (published : Bool)
  deriving Repr, DecidableEq

namespace Event

def level : Event → Level
  | starting _ | querying _ | commitGiven _ | builderCreated _ | spawning _ | childSucceeded _
  | tagAccepted _ _ => .debug
  | commandNotWritten _ _ | childLine .stderr _ | childFailed _ _ => .warn
  | foundTags _ | codeMeta _ | buildConfig _ | builderDisabled | resolvedLocation _
  | publishing _ | listing _ | readList _ | timing _ _ | childLine .stdout _
  | deployFinished _ _ _ => .info

/-- The part of the program that an event comes from, by which filters tell events apart. -/
def source : Event → String
  | starting _ => "deploy_task_script::cli"
  | deployFinished _ _ _ => "deploy_task_script::cli::publish"
  | tagAccepted _ _ => "deploy_task_script::cli::tag"
  | querying _ => "task_script_deploy::deploy::vcs"
  | commitGiven _ | foundTags _ => "task_script_deploy::deploy::metadata"
  | codeMeta _ | buildConfig _ | builderDisabled | resolvedLocation _ | listing _ | readList _ =>
    "task_script_deploy::deploy::publisher"
  | builderCreated _ | publishing _ => "task_script_deploy::infrastructure::builder_cli"
  | timing _ _ => "task_script_deploy::infrastructure::timing"
  | commandNotWritten _ _ => "task_script_deploy::infrastructure::github_actions"
  | spawning _ | childSucceeded _ | childFailed _ _ => "task_script_deploy::executor::process"
  | childLine .stdout _ => "child::stdout"
  | childLine .stderr _ => "child::stderr"

def timingHeadline (label seconds : String) : String :=
  s!"{label}: {seconds}"

/-- What an event says, its fields apart. -/
def headline : Event → String
  | starting _ => "Starting"
  | querying _ => "Querying git"
  | commitGiven _ => "Using commit from environment"
  | foundTags tags => "Found tags that point at HEAD: " ++ ",".intercalate tags
  | codeMeta metadata => "Code meta:\n" ++ metadata.json.pretty
  | buildConfig config => "Build config:\n" ++ config.json.pretty
  | builderDisabled => "Builder disabled, stopping after configuration"
  | builderCreated _ => "Created artifact builder"
  | resolvedLocation _ => "Resolved artifact location"
  | publishing _ => "Publishing artifact"
  | listing _ => "Listing bucket"
  | readList _ => "Read artifact list"
  | timing label duration => timingHeadline label (duration.text ++ "s")
  | commandNotWritten _ _ => "Failed to write workflow command"
  | spawning _ => "Spawning process"
  | childLine _ line => line
  | childSucceeded _ => "Process exited successfully"
  | childFailed _ _ => "Process exited with non-zero status"
  | tagAccepted _ _ => "Release tag accepted"
  | deployFinished _ _ _ => "Deploy finished"

def fields : Event → List (String × String)
  | starting settings => [("version", programVersion), ("settings", settings.json.compact)]
  | querying query => [("query", query)]
  | commitGiven commit => [("commit", commit)]
  | builderCreated location | resolvedLocation location | publishing location
  | listing location => [("location", location.display)]
  | readList count => [("count", toString count)]
  | timing label duration => [("label", label), ("elapsed_ms", toString duration.milliseconds)]
  | commandNotWritten command reason => [("command", command.name), ("error", reason)]
  | spawning command =>
    [("program", command.program), ("args", showTexts command.arguments),
      ("cwd", showText command.directory)]
  | childSucceeded program => [("program", program)]
  | childFailed program code => [("program", program), ("code", toString code)]
  | tagAccepted tag version => [("tag", tag), ("version", version.text)]
  | deployFinished runId commit published =>
    [("run_id", runId), ("commit", commit), ("published", toString published)]
  | foundTags _ | codeMeta _ | buildConfig _ | builderDisabled | childLine _ _ => []

/-- The names by which filters ask for the parts of an event; what it says is one of them. -/
def partNames (event : Event) : List String :=
  "message" :: event.fields.map (·.1)

def fieldText (field : String × String) : String :=
  s!" {field.1}={field.2}"

/-- The headline of an event and its fields. -/
def message (event : Event) : String :=
  event.headline ++ String.join (event.fields.map fieldText)

/-- The level and the message. -/
def text (event : Event) : String :=
  event.level.name ++ " " ++ event.message

end Event

inductive Span where
  | publish (runId : String)
  deriving Repr, DecidableEq

namespace Span

def name : Span → String
  | publish _ => "publish"

def level : Span → Level
  | publish _ => .info

def source : Span → String
  | publish _ => "task_script_deploy::deploy::publisher"

def fields : Span → List (String × String)
  | publish runId => [("run_id", runId)]

/-- A span in front of its events. -/
def text (span : Span) : String :=
  let shown := span.fields.map fun field => s!"{field.1}={field.2}"
  span.name ++ "\x7b" ++ " ".intercalate shown ++ "\x7d"

end Span

/-- The line of an event in the log: the level, the spans around it, the source and the message. -/
def Event.line (spans : List Span) (event : Event) : String :=
  let around := String.join (spans.map (·.text ++ ": "))
  s!"{event.level.name} {around}{event.source}: {event.message}"

end ArtifactRelease.Log
