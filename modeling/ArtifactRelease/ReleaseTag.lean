import ArtifactRelease.Text.Blank
import ArtifactRelease.Version

/-!
# Release tags

A release tag is a semantic version with an optional `v` in front.  A new tag is valid if no tag
of the repository names the same version, in either spelling, and if it is not one of the `0.0.x`
versions, which are kept for pull requests.
-/

namespace ArtifactRelease

open ArtifactRelease.Text

structure ReleaseTag where
  /-- The tag without the blanks around it. -/
  raw : String
  version : Version
  deriving Repr, DecidableEq

namespace ReleaseTag

inductive Fault where
  | invalidVersion (tag : String) (reason : Version.Fault)
  | alreadyExists (version : Version)
  | reservedForPullRequest (version : Version)
  deriving Repr, DecidableEq

def Fault.message : Fault → String
  | .invalidVersion tag reason => s!"Tag '{tag}' is not a valid semantic version: {reason.message}"
  | .alreadyExists version => s!"Tag {version.text} already exists"
  | .reservedForPullRequest version =>
    s!"Tag {version.text} is reserved for pull requests: "
      ++ "major and minor version cannot both be zero"

/-- The tag without a leading `v`. -/
def bare (tag : String) : String :=
  match tag.toList with
  | 'v' :: rest => String.ofList rest
  | _ => tag

def parse (tag : String) : Except Fault ReleaseTag :=
  let raw := trimmed tag
  match Version.parse (bare raw) with
  | .ok version => .ok ⟨raw, version⟩
  | .error reason => .error (.invalidVersion raw reason)

/-- The version that a tag of the repository names, if it names one. -/
def versionOf? (tag : String) : Option Version :=
  (Version.parse (bare (trimmed tag))).toOption

/-- Checks a tag against those that exist. -/
def validate (tag : ReleaseTag) (existing : List String) : Except Fault Unit :=
  if existing.any fun other => versionOf? other = some tag.version then
    .error (.alreadyExists tag.version)
  else if tag.version.major = 0 ∧ tag.version.minor = 0 then
    .error (.reservedForPullRequest tag.version)
  else .ok ()

end ReleaseTag

end ArtifactRelease
