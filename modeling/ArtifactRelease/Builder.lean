import ArtifactRelease.CommandWords
import ArtifactRelease.Json.Parser
import ArtifactRelease.VersionControl

/-!
# The artifact builder

An external program packs and uploads artifacts and keeps the list of those in storage.  Its command
line is a setting: the first word is the program, the others come before the arguments of each
operation.
-/

namespace ArtifactRelease

open ArtifactRelease.Text

structure Builder where
  program : String
  leading : List String
  deriving Repr, DecidableEq

namespace Builder

def parse (line : String) : Except Failure Builder :=
  match CommandWords.split? line with
  | none => .error (.builderLine line .openQuote)
  | some [] => .error (.builderLine line .empty)
  | some (program :: leading) => .ok ⟨program, leading⟩

def ofSettings (settings : Settings) : Except Failure Builder :=
  parse settings.builderLine

def publishCommand (builder : Builder) (config : BuildConfig) : Child.Command :=
  { program := builder.program
    arguments := builder.leading ++ ["publish", "--config", config.json.compact] }

def listCommand (builder : Builder) (operation : ListOperation) (location : ArtifactLocation) :
    Child.Command :=
  { program := builder.program
    arguments := builder.leading ++ ["list", operation.name, "--type",
      ArtifactKind.taskScripts.name, "--endpoint", location.endpoint, "--bucket",
      location.bucket, "--prefix", location.folder]
    captures := operation = .read }

def publish (builder : Builder) (config : BuildConfig) (location : ArtifactLocation) :
    Plan (Except Failure Unit) := do
  Plan.logged (.publishing location)
  match ← Plan.command (builder.publishCommand config) with
  | .ok _ => return .ok ()
  | .error cause => return .error (.builder cause)

/-- Brings the artifact list up to date. -/
def scan (builder : Builder) (location : ArtifactLocation) : Plan (Except Failure Unit) := do
  match ← Plan.command (builder.listCommand .scan location) with
  | .ok _ => return .ok ()
  | .error cause => return .error (.artifactList .scan cause)

/-- The artifact list that a text holds; a blank text holds none. -/
def parseList (output : String) : Except Failure Json.Value :=
  if (trim output.toList).isEmpty then .ok .null
  else match Json.parse output with
    | .ok value => .ok value
    | .error fault => .error (.json fault)

def readList (builder : Builder) (location : ArtifactLocation) :
    Plan (Except Failure Json.Value) := do
  match ← Plan.command (builder.listCommand .read location) with
  | .ok output => return parseList output
  | .error cause => return .error (.artifactList .read cause)

end Builder

/-! ## Factories -/

/-- Makes builders for one place in storage. -/
structure BuilderFactory where
  builder : Builder
  endpoint : String
  bucket : Option String
  folder : Option String
  deriving Repr, DecidableEq

namespace BuilderFactory

def under (settings : Settings) (builder : Builder) : BuilderFactory :=
  { builder
    endpoint := settings.storageEndpoint
    bucket := settings.bucket
    folder := settings.folder }

def ofSettings (settings : Settings) : Except Failure BuilderFactory := do
  return under settings (← Builder.ofSettings settings)

/-- The place that the artifacts of a new builder go to. -/
def location? (factory : BuilderFactory) : Except Failure ArtifactLocation :=
  match factory.bucket with
  | none => .error (.missingSetting "ARTIFACT_BUCKET")
  | some bucket => .ok ⟨factory.endpoint, bucket, factory.folder.getD ""⟩

end BuilderFactory

/-- Opens the artifact list of any place in storage. -/
structure ListFactory where
  builder : Builder
  deriving Repr, DecidableEq

def ListFactory.ofSettings (settings : Settings) : Except Failure ListFactory := do
  return ⟨← Builder.ofSettings settings⟩

end ArtifactRelease
