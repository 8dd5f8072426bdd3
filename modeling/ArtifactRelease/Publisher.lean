import ArtifactRelease.Builder
import ArtifactRelease.Collector
import ArtifactRelease.Stopwatch

/-!
# Publishing

A run collects the metadata, requests it once more inside a log group and builds under it there, and
ends with a notice.  Which of the steps of the build are taken is up to the options; the first
failure ends the run, but the group is closed in any case.
-/

namespace ArtifactRelease

structure PublishOptions where
  /-- Create the builder; without it nothing is published or listed. -/
  build : Bool := true
  publish : Bool := false
  list : Bool := true
  deriving Repr, DecidableEq

/-- A random identifier with the version and variant bits of random identifiers. -/
structure RunId where
  bits : BitVec 128
  deriving Repr, DecidableEq

namespace RunId

def ofRandom (random : BitVec 128) : RunId :=
  let field (value : Nat) (position : Nat) : BitVec 128 := BitVec.ofNat 128 (value <<< position)
  ⟨(random &&& ~~~(field 0xF 76 ||| field 0x3 62)) ||| (field 0x4 76 ||| field 0x2 62)⟩

def version (runId : RunId) : Nat :=
  (runId.bits >>> 76).toNat % 16

/-- Five groups of hexadecimal digits. -/
def text (runId : RunId) : String :=
  let shown := Nat.toDigits 16 runId.bits.toNat
  let all := List.replicate (32 - shown.length) '0' ++ shown
  let group (start count : Nat) : String := String.ofList ((all.drop start).take count)
  "-".intercalate [group 0 8, group 8 4, group 12 4, group 16 4, group 20 12]

end RunId

structure Report where
  runId : RunId
  metadata : Metadata
  config : BuildConfig
  location : Option ArtifactLocation
  published : Bool
  artifactList : Option Json.Value
  timings : Timings

/-- What came of the build within a run. -/
structure BuildOutcome where
  config : BuildConfig
  location : Option ArtifactLocation := none
  published : Bool := false
  artifactList : Option Json.Value := none

structure Publisher where
  settings : Settings
  collector : Collector
  builders : BuilderFactory
  lists : ListFactory

namespace Publisher

/-- A publisher that has not collected anything. -/
def fresh (settings : Settings) (builders : BuilderFactory) (lists : ListFactory) : Publisher :=
  { settings, collector := Collector.ofSettings settings, builders, lists }

/-- Both factories read the line of the artifact builder. -/
def ofSettings (settings : Settings) : Except Failure Publisher := do
  let builders ← BuilderFactory.ofSettings settings
  let lists ← ListFactory.ofSettings settings
  return fresh settings builders lists

/-- How many artifacts a list holds, if it is one. -/
def listed? : Json.Value → Option Nat
  | .array items => some items.length
  | _ => none

/-- Brings the artifact list up to date and reads it. -/
def listBucket (publisher : Publisher) (location : ArtifactLocation) (timings : Timings) :
    Plan (Except Failure Json.Value × Timings) := do
  Plan.logged (.listing location)
  let list := publisher.lists.builder
  let (scanned, timings) ← timings.time "scan artifacts" (list.scan location)
  match scanned with
  | .error failure => return (.error failure, timings)
  | .ok () =>
    let (value, timings) ← timings.time "read list" (list.readList location)
    match value with
    | .error failure => return (.error failure, timings)
    | .ok value =>
      match listed? value with
      | some count => Plan.logged (.readList count)
      | none => pure ()
      return (.ok value, timings)

def publishStep (publisher : Publisher) (options : PublishOptions) (location : ArtifactLocation)
    (outcome : BuildOutcome) : Plan (Except Failure BuildOutcome) :=
  if options.publish then do
    match ← publisher.builders.builder.publish outcome.config location with
    | .error failure => return .error failure
    | .ok () => return .ok { outcome with published := true }
  else return .ok outcome

def listStep (publisher : Publisher) (options : PublishOptions) (location : ArtifactLocation)
    (outcome : BuildOutcome) (timings : Timings) :
    Plan (Except Failure BuildOutcome × Timings) :=
  if options.list then do
    let (value, timings) ← publisher.listBucket location timings
    return (value.map fun value => { outcome with artifactList := some value }, timings)
  else return (.ok outcome, timings)

def buildAt (publisher : Publisher) (options : PublishOptions) (location : ArtifactLocation)
    (outcome : BuildOutcome) (timings : Timings) :
    Plan (Except Failure BuildOutcome × Timings) := do
  match ← publisher.publishStep options location outcome with
  | .error failure => return (.error failure, timings)
  | .ok outcome =>
    let (listed, timings) ← publisher.listStep options location outcome timings
    return (listed.map fun outcome => { outcome with location := some location }, timings)

/-- A build under some metadata.  Its outcome is filled in as the steps are taken. -/
def build (publisher : Publisher) (options : PublishOptions) (metadata : Metadata)
    (timings : Timings) : Plan (Except Failure BuildOutcome × Timings) := do
  let config := BuildConfig.assemble publisher.settings metadata
  Plan.logged (.buildConfig config)
  let outcome : BuildOutcome := { config }
  if !options.build then
    Plan.logged .builderDisabled
    return (.ok outcome, timings)
  else match publisher.builders.location? with
    | .error failure => return (.error failure, timings)
    | .ok location =>
      Plan.logged (.builderCreated location)
      Plan.logged (.resolvedLocation location)
      publisher.buildAt options location outcome timings

/-- What is done inside the log group.  The metadata is requested once more. -/
def buildGroup (publisher : Publisher) (options : PublishOptions) (timings : Timings) :
    Plan ((Except Failure BuildOutcome × Timings) × Publisher) := do
  let (collected, collector) ← publisher.collector.collect
  let publisher := { publisher with collector }
  match collected with
  | .error failure => return ((.error (.metadata failure), timings), publisher)
  | .ok metadata => return (← publisher.build options metadata timings, publisher)

/-- A run once the metadata is there. -/
def runWith (publisher : Publisher) (options : PublishOptions) (runId : RunId)
    (start : Duration) (metadata : Metadata) : Plan (Except Failure Report × Publisher) := do
  Plan.logged (.codeMeta metadata)
  Plan.emit (.group "build it")
  let ((built, timings), publisher) ← publisher.buildGroup options []
  Plan.emit .endGroup
  match built with
  | .error failure => return (.error failure, publisher)
  | .ok built =>
    let stop ← Plan.elapsed
    let timings ← timings.note "TOTAL" (Duration.between start stop)
    Plan.emit (.notice "all done!")
    let report : Report :=
      { runId
        metadata
        config := built.config
        location := built.location
        published := built.published
        artifactList := built.artifactList
        timings }
    return (.ok report, publisher)

/-- A run under an identifier; the publisher keeps the metadata for the next. -/
def runAs (publisher : Publisher) (options : PublishOptions) (runId : RunId) :
    Plan (Except Failure Report × Publisher) := do
  let start ← Plan.elapsed
  let (collected, collector) ← publisher.collector.collect
  let publisher := { publisher with collector }
  match collected with
  | .error failure => return (.error (.metadata failure), publisher)
  | .ok metadata => publisher.runWith options runId start metadata

/-- One run, in a span of the log that names it. -/
def publish (publisher : Publisher) (options : PublishOptions) :
    Plan (Except Failure Report × Publisher) := do
  let runId := RunId.ofRandom (← Plan.randomBits)
  Plan.within (.publish runId.text) (publisher.runAs options runId)

def display (publisher : Publisher) : String :=
  showRecord "Publisher"
    [("env", publisher.settings.display), ("collector", publisher.collector.display)] false

end Publisher

end ArtifactRelease
