import ArtifactRelease.CommandLine.Arguments
import ArtifactRelease.CommandLine.LogFilter

/-!
# Running the program

What an invocation does, as a plan that ends in success or in the text of an error: the step that
failed, where that is not plain, and then the failure with all its causes.
-/

namespace ArtifactRelease.CommandLine

/-- The text of an error, behind what was being done. -/
def errorText (doing : List String) (failure : Failure) : String :=
  "Error: " ++ ": ".intercalate (doing ++ [failure.report])

/-- A publisher for the settings, or the text of an error that tells which factory could not be
configured. -/
def configured (settings : Settings) : Except String Publisher := do
  let builders ← (BuilderFactory.ofSettings settings).mapError
    (errorText ["Failed to configure the artifact builder"])
  let lists ← (ListFactory.ofSettings settings).mapError
    (errorText ["Failed to configure the artifact list utility"])
  return .fresh settings builders lists

def publish (settings : Settings) (options : PublishOptions) : Plan (Except String Unit) := do
  match configured settings with
  | .error text => return .error text
  | .ok publisher =>
    let (outcome, _) ← publisher.publish options
    match outcome with
    | .error failure => return .error (errorText ["Deploy failed"] failure)
    | .ok report =>
      Plan.logged (.deployFinished report.runId.text report.metadata.commit report.published)
      return .ok ()

def showMetadata (settings : Settings) (format : MetadataFormat) : Plan (Except String Unit) := do
  let (outcome, _) ← (Collector.ofSettings settings).collect
  match outcome with
  | .error failure => return .error (errorText [] (.metadata failure))
  | .ok metadata =>
    Plan.printed (metadata.render format ++ "\n")
    return .ok ()

def checkTag (tag : String) (existing : List String) : Except ReleaseTag.Fault ReleaseTag := do
  let release ← ReleaseTag.parse tag
  release.validate existing
  return release

def validateTag (tag : String) : Plan (Except String Unit) := do
  match ← ({} : VersionControl).allTags with
  | .error failure => return .error (errorText ["Failed to list tags"] (.versionControl failure))
  | .ok existing =>
    match checkTag tag existing with
    | .error fault => return .error (errorText [] (.tag fault))
    | .ok release =>
      Plan.logged (.tagAccepted tag release.version)
      Plan.printed s!"Tag {tag} is valid\n"
      return .ok ()

def perform (settings : Settings) (operation : Operation) : Plan (Except String Unit) := do
  Plan.logged (.starting settings)
  match operation with
  | .publish options => publish settings options
  | .showMetadata format => showMetadata settings format
  | .validateTag tag => validateTag tag

def filterName : String := "RUST_LOG"

/-- The filter for the log: the variable for filters, if it is well formed, else the level given as
an argument, else the one in the settings. -/
def logFilter (environment : Environment) (logLevel : Option String) :
    Except Directive.Fault LogFilter :=
  match (environment filterName).map LogFilter.parse with
  | some (.ok filter) => .ok filter
  | some (.error .brokenCharacter) => .error .brokenCharacter
  | _ => LogFilter.parseLenient (logLevel.getD environment.settings.logLevel)

/-- The exit code of a run that breaks down before it has begun. -/
def breakdownCode : Nat := 101

def versionText : String := s!"deploy-task-script {Log.programVersion}\n"

structure Execution where
  exitCode : Nat
  stdout : String := ""
  error : Option String := none
  effects : List Effect := []
  shown : List Log.Event := []

/-- Runs the program; `help` is the text shown on request. -/
def execute {σ : Type} (outside : Outside σ) (environment : Environment)
    (arguments : List String) (help : String) (state : σ) : Execution :=
  match parse arguments with
  | .misuse => { exitCode := 2 }
  | .help => { exitCode := 0, stdout := help }
  | .version => { exitCode := 0, stdout := versionText }
  | .perform invocation =>
    match logFilter environment invocation.logLevel with
    | .error _ => { exitCode := breakdownCode }
    | .ok filter =>
      let performance := (perform environment.settings invocation.operation).perform outside state
      { exitCode := if performance.value.isOk then 0 else 1
        stdout := stdoutOf performance.effects
        error := match performance.value with
          | .ok _ => none
          | .error text => some text
        effects := performance.effects
        shown := ((placedEvents [] performance.effects).filter fun (spans, event) =>
          filter.shows spans event).map (·.2) }

end ArtifactRelease.CommandLine
