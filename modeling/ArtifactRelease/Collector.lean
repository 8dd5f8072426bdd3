import ArtifactRelease.VersionControl

/-!
# Collecting build metadata

A collector asks version control once.  Whatever comes of that, metadata or failure, is kept and
is the answer to every later request.
-/

namespace ArtifactRelease

structure Collector where
  versionControl : VersionControl := {}
  /-- The commit to record, if it need not be asked for. -/
  givenCommit : Option String
  actionRun : Option ActionRun
  /-- What came of the first request. -/
  collected : Option (Except QueryFailure Metadata) := none

namespace Collector

def ofSettings (settings : Settings) : Collector :=
  { givenCommit := settings.commit, actionRun := settings.actionRun }

def commit (collector : Collector) : Plan (Except QueryFailure String) :=
  match collector.givenCommit with
  | some commit => do
    Plan.logged (.commitGiven commit)
    return .ok commit
  | none => collector.versionControl.shortHead

/-- Asks for everything that is recorded. -/
def compute (collector : Collector) : Plan (Except QueryFailure Metadata) := do
  match ← collector.commit with
  | .error failure => return .error failure
  | .ok commit =>
    match ← collector.versionControl.tagsAtHead with
    | .error failure => return .error failure
    | .ok tags =>
      Plan.logged (.foundTags tags)
      let now ← Plan.now
      return .ok
        { commit
          createdAt := now.timestamp
          runRecord := collector.actionRun.map RunRecord.ofActionRun
          tags := some tags }

/-- The metadata, computed by the first request. -/
def collect (collector : Collector) : Plan (Except QueryFailure Metadata × Collector) :=
  match collector.collected with
  | some outcome => return (outcome, collector)
  | none => do
    let outcome ← collector.compute
    return (outcome, { collector with collected := some outcome })

/-- Two requests at once: the one that comes second waits for what comes of the first. -/
def collectTwice (collector : Collector) :
    Plan ((Except QueryFailure Metadata × Except QueryFailure Metadata) × Collector) := do
  let (first, collector) ← collector.collect
  let (second, collector) ← collector.collect
  return ((first, second), collector)

def get? (collector : Collector) : Option Metadata :=
  match collector.collected with
  | some (.ok metadata) => some metadata
  | _ => none

def display (collector : Collector) : String :=
  showRecord "MetadataCollector"
    [("commit_override", showText collector.givenCommit),
      ("github", showOption (collector.actionRun.map ActionRun.display)),
      ("collected", toString collector.collected.isSome)] false

end Collector

end ArtifactRelease
