import ArtifactRelease.Json.Value
import ArtifactRelease.Settings
import ArtifactRelease.Timestamp

/-!
# Build metadata

What is recorded about a build: the commit it was made from, when, in which run of the automation
service, and the tags on the commit.  Optional fields that are not there are left out of the JSON.
-/

namespace ArtifactRelease

structure RunInfo where
  id : Option String := none
  number : Option String := none
  attempt : Option String := none
  deriving Repr, DecidableEq

/-- The run that a build was made in. -/
structure RunRecord where
  action : Bool
  job : Option String := none
  run : RunInfo
  repository : Option String := none
  sha : Option String := none
  deriving Repr, DecidableEq

structure Metadata where
  commit : String
  createdAt : String
  runRecord : Option RunRecord := none
  tags : Option (List String) := none
  deriving Repr, DecidableEq

def RunRecord.ofActionRun (run : ActionRun) : RunRecord :=
  { action := true
    job := run.job
    run := ⟨run.runId, run.runNumber, run.runAttempt⟩
    repository := run.repository
    sha := run.sha }

open Json.Value in
def RunInfo.json (info : RunInfo) : Json.Value :=
  .object (optionalField "id" info.id ++ optionalField "number" info.number
    ++ optionalField "attempt" info.attempt)

open Json.Value in
def RunRecord.json (record : RunRecord) : Json.Value :=
  .object ([("action", .bool record.action)] ++ optionalField "job" record.job
    ++ [("run", record.run.json)] ++ optionalField "repository" record.repository
    ++ optionalField "sha" record.sha)

def Metadata.json (metadata : Metadata) : Json.Value :=
  let runRecord := match metadata.runRecord with
    | none => []
    | some record => [("githubData", record.json)]
  let tags := match metadata.tags with
    | none => []
    | some tags => [("tags", Json.Value.array (tags.map .string))]
  .object ([("commit", .string metadata.commit), ("createdAt", .string metadata.createdAt)]
    ++ runRecord ++ tags)

end ArtifactRelease
