import ArtifactRelease.Child.Command
import ArtifactRelease.Json.Fault
import ArtifactRelease.ReleaseTag

/-!
# Failures of a deployment

Everything that can end a deployment, each with its message and the chain of causes behind it.
-/

namespace ArtifactRelease

inductive Query where
  | head
  | tagsAtHead
  | allTags
  deriving Repr, DecidableEq

namespace Query

def arguments : Query → List String
  | head => ["rev-parse", "--short", "HEAD"]
  | tagsAtHead => ["tag", "--points-at", "HEAD"]
  | allTags => ["tag"]

def text (query : Query) : String :=
  " ".intercalate query.arguments

end Query

/-- A question that version control did not answer. -/
structure QueryFailure where
  query : Query
  cause : Child.Failure
  deriving Repr, DecidableEq

namespace QueryFailure

def message (failure : QueryFailure) : String :=
  s!"Version control query '{failure.query.text}' failed"

def chain (failure : QueryFailure) : List String :=
  failure.message :: failure.cause.chain

end QueryFailure

inductive ListOperation where
  | scan
  | read
  deriving Repr, DecidableEq

def ListOperation.name : ListOperation → String
  | scan => "scan"
  | read => "read"

inductive BuilderLineFault where
  | openQuote
  | empty
  deriving Repr, DecidableEq

def BuilderLineFault.message : BuilderLineFault → String
  | openQuote => "missing closing quote"
  | empty => "command is empty"

inductive Failure where
  | metadata (cause : QueryFailure)
  | versionControl (cause : QueryFailure)
  | builder (cause : Child.Failure)
  | artifactList (operation : ListOperation) (cause : Child.Failure)
  | builderLine (line : String) (fault : BuilderLineFault)
  | missingSetting (name : String)
  | json (fault : Json.Fault)
  | tag (fault : ReleaseTag.Fault)
  deriving Repr, DecidableEq

namespace Failure

def message : Failure → String
  | metadata _ => "Failed to collect build metadata"
  | versionControl cause => cause.message
  | builder _ => "Artifact builder publish failed"
  | artifactList operation _ => s!"Artifact list {operation.name} failed"
  | builderLine line fault => s!"Invalid artifact builder command '{line}': {fault.message}"
  | missingSetting name => s!"Missing required setting {name}"
  | json fault => s!"JSON error: {fault.message}"
  | tag fault => fault.message

def causes : Failure → List String
  | metadata cause => cause.chain
  | versionControl cause => cause.cause.chain
  | builder cause => cause.chain
  | artifactList _ cause => cause.chain
  | builderLine _ _ => []
  | missingSetting _ => []
  | json fault => [fault.message]
  | tag _ => []

/-- The message and all causes on one line. -/
def report (failure : Failure) : String :=
  ": ".intercalate (failure.message :: failure.causes)

end Failure

end ArtifactRelease
