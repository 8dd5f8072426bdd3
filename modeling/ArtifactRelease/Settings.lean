import ArtifactRelease.Json.Value
import ArtifactRelease.Text.Blank
import ArtifactRelease.Text.Quoted

/-!
# Settings

A deployment is configured by environment variables.  The value of a setting is the trimmed text
of its variable, and a blank variable counts as not set.  Some settings have a default.
-/

namespace ArtifactRelease

open ArtifactRelease.Text

/-- The variables a process is started with. -/
abbrev Environment := String → Option String

/-- The run of the automation service that a build belongs to. -/
structure ActionRun where
  job : Option String := none
  runId : Option String := none
  runNumber : Option String := none
  runAttempt : Option String := none
  sha : Option String := none
  repository : Option String := none
  deriving Repr, DecidableEq

namespace ActionRun

def isEmpty (run : ActionRun) : Bool :=
  run.job.isNone && run.runId.isNone && run.runNumber.isNone && run.runAttempt.isNone
    && run.sha.isNone && run.repository.isNone

end ActionRun

structure Settings where
  artifactNamespace : Option String := none
  slug : Option String := none
  version : Option String := none
  pushToRegistry : Option String := none
  bucket : Option String := none
  folder : Option String := none
  endpoint : Option String := none
  builderCommand : Option String := none
  sshKeyPath : Option String := none
  commit : Option String := none
  logFilter : Option String := none
  actionRun : Option ActionRun := none
  deriving Repr, DecidableEq

namespace Environment

/-- The variables that the settings are read from. -/
def settingNames : List String :=
  ["NAMESPACE", "SLUG", "VERSION", "PUSH_TO_ECR", "ARTIFACT_BUCKET", "ARTIFACT_PREFIX",
    "ARTIFACT_ENDPOINT", "ARTIFACT_BUILDER", "SSH_KEY_PATH", "COMMIT", "DEPLOY_LOG", "GITHUB_JOB",
    "GITHUB_RUN_ID", "GITHUB_RUN_NUMBER", "GITHUB_RUN_ATTEMPT", "GITHUB_SHA", "GITHUB_REPOSITORY"]

def setting (environment : Environment) (name : String) : Option String :=
  (environment name).bind nonBlank?

def actionRun (environment : Environment) : Option ActionRun :=
  let run : ActionRun :=
    { job := environment.setting "GITHUB_JOB"
      runId := environment.setting "GITHUB_RUN_ID"
      runNumber := environment.setting "GITHUB_RUN_NUMBER"
      runAttempt := environment.setting "GITHUB_RUN_ATTEMPT"
      sha := environment.setting "GITHUB_SHA"
      repository := environment.setting "GITHUB_REPOSITORY" }
  if run.isEmpty then none else some run

def settings (environment : Environment) : Settings :=
  { artifactNamespace := environment.setting "NAMESPACE"
    slug := environment.setting "SLUG"
    version := environment.setting "VERSION"
    pushToRegistry := environment.setting "PUSH_TO_ECR"
    bucket := environment.setting "ARTIFACT_BUCKET"
    folder := environment.setting "ARTIFACT_PREFIX"
    endpoint := environment.setting "ARTIFACT_ENDPOINT"
    builderCommand := environment.setting "ARTIFACT_BUILDER"
    sshKeyPath := environment.setting "SSH_KEY_PATH"
    commit := environment.setting "COMMIT"
    logFilter := environment.setting "DEPLOY_LOG"
    actionRun := environment.actionRun }

end Environment

namespace Settings

/-- The spellings of yes, up to ASCII case. -/
def isTruthy (value : String) : Bool :=
  String.ofList (value.toList.map Char.toLower) ∈ ["true", "1", "yes", "on"]

def pushes (settings : Settings) : Bool :=
  settings.pushToRegistry.any isTruthy

def sshKey (settings : Settings) : String :=
  settings.sshKeyPath.getD "/root/.ssh/id_rsa"

def storageEndpoint (settings : Settings) : String :=
  settings.endpoint.getD "s3.amazonaws.com"

def builderLine (settings : Settings) : String :=
  settings.builderCommand.getD "ts-artifact-builder"

def logLevel (settings : Settings) : String :=
  settings.logFilter.getD "info"

def isAutomated (settings : Settings) : Bool :=
  settings.actionRun.isSome

end Settings

/-! ## Descriptions -/

def Json.Value.ofOption : Option String → Json.Value
  | none => .null
  | some text => .string text

def ActionRun.json (run : ActionRun) : Json.Value :=
  .object
    [("job", .ofOption run.job), ("run_id", .ofOption run.runId),
      ("run_number", .ofOption run.runNumber), ("run_attempt", .ofOption run.runAttempt),
      ("sha", .ofOption run.sha), ("repository", .ofOption run.repository)]

/-- All settings as JSON; a setting that is not set is null. -/
def Settings.json (settings : Settings) : Json.Value :=
  .object
    [("namespace", .ofOption settings.artifactNamespace), ("slug", .ofOption settings.slug),
      ("version", .ofOption settings.version), ("push_to_ecr", .ofOption settings.pushToRegistry),
      ("artifact_bucket", .ofOption settings.bucket),
      ("artifact_prefix", .ofOption settings.folder),
      ("artifact_endpoint", .ofOption settings.endpoint),
      ("builder_command", .ofOption settings.builderCommand),
      ("ssh_key_path", .ofOption settings.sshKeyPath), ("commit", .ofOption settings.commit),
      ("log_filter", .ofOption settings.logFilter),
      ("github", (settings.actionRun.map ActionRun.json).getD .null)]

/-- A record as shown to a developer: its name and its fields in braces. -/
def showRecord (name : String) (fields : List (String × String)) (complete : Bool) : String :=
  let shown := fields.map fun field => field.1 ++ ": " ++ field.2
  name ++ " \x7b " ++ ", ".intercalate (if complete then shown else shown ++ [".."]) ++ " \x7d"

def showOption (shown : Option String) : String :=
  match shown with
  | none => "None"
  | some text => s!"Some({text})"

def showText (text : Option String) : String :=
  showOption (text.map stringLiteral)

def showTexts (texts : List String) : String :=
  "[" ++ ", ".intercalate (texts.map stringLiteral) ++ "]"

def ActionRun.display (run : ActionRun) : String :=
  showRecord "GithubEnv"
    [("job", showText run.job), ("run_id", showText run.runId),
      ("run_number", showText run.runNumber), ("run_attempt", showText run.runAttempt),
      ("sha", showText run.sha), ("repository", showText run.repository)] true

def Settings.display (settings : Settings) : String :=
  showRecord "DeployEnv"
    [("namespace", showText settings.artifactNamespace), ("slug", showText settings.slug),
      ("version", showText settings.version), ("push_to_ecr", showText settings.pushToRegistry),
      ("artifact_bucket", showText settings.bucket), ("artifact_prefix", showText settings.folder),
      ("artifact_endpoint", showText settings.endpoint),
      ("builder_command", showText settings.builderCommand),
      ("ssh_key_path", showText settings.sshKeyPath), ("commit", showText settings.commit),
      ("log_filter", showText settings.logFilter),
      ("github", showOption (settings.actionRun.map ActionRun.display))] true

end ArtifactRelease
