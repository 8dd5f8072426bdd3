import ArtifactRelease.Failure
import ArtifactRelease.Plan
import ArtifactRelease.Text.Lines

/-!
# Version control

Three questions about the repository, put to `git`.  The tags at the head are the lines of the
trimmed answer, so that no tags are one empty line; of the list of all tags blank lines are
dropped.
-/

namespace ArtifactRelease

open ArtifactRelease.Text

/-- Version control in a directory, or in the current one. -/
structure VersionControl where
  directory : Option String := none
  deriving Repr, DecidableEq

/-- The lines of a trimmed text. -/
def splitTags (output : String) : List String :=
  pieces '\n' (trimmed output)

/-- The trimmed lines of a text that are not blank. -/
def listedTags (output : String) : List String :=
  ((lines output.toList).map (String.ofList ∘ trim)).filter (!·.isEmpty)

namespace VersionControl

def command (versionControl : VersionControl) (query : Query) : Child.Command :=
  { program := "git"
    arguments := query.arguments
    captures := true
    directory := versionControl.directory }

def ask (versionControl : VersionControl) (query : Query) : Plan (Except QueryFailure String) := do
  Plan.logged (.querying query.text)
  match ← Plan.command (versionControl.command query) with
  | .ok output => return .ok output
  | .error cause => return .error ⟨query, cause⟩

/-- The abbreviated hash of the head. -/
def shortHead (versionControl : VersionControl) : Plan (Except QueryFailure String) := do
  return (← versionControl.ask .head).map trimmed

def tagsAtHead (versionControl : VersionControl) : Plan (Except QueryFailure (List String)) := do
  return (← versionControl.ask .tagsAtHead).map splitTags

def allTags (versionControl : VersionControl) : Plan (Except QueryFailure (List String)) := do
  return (← versionControl.ask .allTags).map listedTags

end VersionControl

end ArtifactRelease
