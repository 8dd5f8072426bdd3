import ArtifactRelease.Text.Utf8
import ArtifactRelease.Workflow.Command

/-!
# Writers for workflow commands

A writer may take fewer bytes than it is offered, and may refuse any write or flush with a
reason.  A command is delivered when all its bytes are written and flushed; the first refusal ends
the attempt.
-/

namespace ArtifactRelease.Workflow

/-- Something that takes bytes, with a state `σ` of its own. -/
structure Writer (σ : Type) where
  /-- Offers bytes: how many of them were taken.  A write that is interrupted is tried again, so
  that this is the answer when no interruption is left. -/
  write : List UInt8 → σ → Except String Nat × σ
  flush : σ → Except String Unit × σ

namespace Writer

variable {σ : Type}

/-- Offers bytes until all are taken.  Each write takes a byte or ends the attempt, so that `fuel`
as long as the bytes is enough. -/
def writeAll (writer : Writer σ) : (fuel : Nat) → List UInt8 → σ → Except String Unit × σ
  | _, [], state => (.ok (), state)
  | 0, _ :: _, state => (.error "failed to write whole buffer", state)
  | fuel + 1, bytes, state =>
    match writer.write bytes state with
    | (.error reason, state) => (.error reason, state)
    | (.ok 0, state) => (.error "failed to write whole buffer", state)
    | (.ok taken, state) => writeAll writer fuel (bytes.drop taken) state

def deliver (writer : Writer σ) (command : Command) (state : σ) : Except String Unit × σ :=
  let bytes := Text.encode command.line
  match writer.writeAll bytes.length bytes state with
  | (.error reason, state) => (.error reason, state)
  | (.ok (), state) => writer.flush state

/-- A writer that keeps all that it is offered. -/
def memory : Writer (List UInt8) where
  write bytes written := (.ok bytes.length, written ++ bytes)
  flush written := (.ok (), written)

/-- A writer that takes nothing. -/
def refusing (reason : String) : Writer (List UInt8) where
  write _ written := (.error reason, written)
  flush written := (.ok (), written)

/-- A writer that keeps all that it is offered but cannot flush it. -/
def unflushable (reason : String) : Writer (List UInt8) where
  write bytes written := (.ok bytes.length, written ++ bytes)
  flush written := (.error reason, written)

end Writer

end ArtifactRelease.Workflow
