import ArtifactRelease.Json.Record
import ArtifactRelease.Metadata.Basic

/-!
# Reading build metadata

Metadata is read back from the JSON that it is written as.  The commit and the creation time are
required, and so are the action mark and the identifiers of a run; all else may be missing or null.
-/

namespace ArtifactRelease

open Json

/-- A record in the making: a field is there once it has been read. -/
structure RunInfo.Draft where
  id : Option (Option String) := none
  number : Option (Option String) := none
  attempt : Option (Option String) := none

structure RunRecord.Draft where
  action : Option Bool := none
  job : Option (Option String) := none
  run : Option RunInfo := none
  repository : Option (Option String) := none
  sha : Option (Option String) := none

structure Metadata.Draft where
  commit : Option String := none
  createdAt : Option String := none
  runRecord : Option (Option RunRecord) := none
  tags : Option (Option (List String)) := none

/-- Reads a value and puts it into a draft. -/
def Json.Reader.into {α δ : Type} (reader : Reader α) (put : α → δ) : Reader δ
  | text => do
    let (value, rest) ← reader text
    return (put value, rest)

def readPlainText : Reader String := readText "a string"

def readOptionalText : Reader (Option String) := readOptional readPlainText

namespace RunInfo

def layout : Layout Draft where
  name := "RunInfo"
  blank := {}
  slots := [
    ⟨"id", false, (·.id.isSome), fun draft =>
      Reader.into readOptionalText fun id => { draft with id := some id }⟩,
    ⟨"number", false, (·.number.isSome), fun draft =>
      Reader.into readOptionalText fun number => { draft with number := some number }⟩,
    ⟨"attempt", false, (·.attempt.isSome), fun draft =>
      Reader.into readOptionalText fun attempt => { draft with attempt := some attempt }⟩]

def Draft.finish (draft : Draft) : RunInfo :=
  ⟨draft.id.join, draft.number.join, draft.attempt.join⟩

def read : Reader RunInfo :=
  Reader.into layout.read Draft.finish

end RunInfo

namespace RunRecord

def layout : Layout Draft where
  name := "GithubData"
  blank := {}
  slots := [
    ⟨"action", true, (·.action.isSome), fun draft =>
      Reader.into readBool fun action => { draft with action := some action }⟩,
    ⟨"job", false, (·.job.isSome), fun draft =>
      Reader.into readOptionalText fun job => { draft with job := some job }⟩,
    ⟨"run", true, (·.run.isSome), fun draft =>
      Reader.into RunInfo.read fun run => { draft with run := some run }⟩,
    ⟨"repository", false, (·.repository.isSome), fun draft =>
      Reader.into readOptionalText fun repository =>
        { draft with repository := some repository }⟩,
    ⟨"sha", false, (·.sha.isSome), fun draft =>
      Reader.into readOptionalText fun sha => { draft with sha := some sha }⟩]

/-- The layout leaves no required field empty. -/
def Draft.finish (draft : Draft) : RunRecord :=
  ⟨draft.action.getD false, draft.job.join, draft.run.getD {}, draft.repository.join,
    draft.sha.join⟩

def read : Reader RunRecord :=
  Reader.into layout.read Draft.finish

end RunRecord

namespace Metadata

def layout : Layout Draft where
  name := "BuildMetadata"
  blank := {}
  slots := [
    ⟨"commit", true, (·.commit.isSome), fun draft =>
      Reader.into readPlainText fun commit => { draft with commit := some commit }⟩,
    ⟨"createdAt", true, (·.createdAt.isSome), fun draft =>
      Reader.into readPlainText fun createdAt => { draft with createdAt := some createdAt }⟩,
    ⟨"githubData", false, (·.runRecord.isSome), fun draft =>
      Reader.into (readOptional RunRecord.read) fun record =>
        { draft with runRecord := some record }⟩,
    ⟨"tags", false, (·.tags.isSome), fun draft =>
      Reader.into (readOptional readTexts) fun tags => { draft with tags := some tags }⟩]

/-- The layout leaves no required field empty. -/
def Draft.finish (draft : Draft) : Metadata :=
  ⟨draft.commit.getD "", draft.createdAt.getD "", draft.runRecord.join, draft.tags.join⟩

def read : Reader Metadata :=
  Reader.into layout.read Draft.finish

def parse (text : String) : Except Fault Metadata :=
  readAll read text

end Metadata

end ArtifactRelease
