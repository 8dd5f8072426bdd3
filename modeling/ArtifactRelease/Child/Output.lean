import ArtifactRelease.Text.Utf8

/-!
# Output of child processes

Output arrives in chunks that are cut anywhere.  `Buffer` keeps the bytes and decodes them at the
end, so that a character may be cut by a chunk; `LineSplitter` gives each line as soon as it is
complete.
-/

namespace ArtifactRelease.Child

open ArtifactRelease.Text

/-- The bytes of a stream, if they are kept at all. -/
structure Buffer where
  keeps : Bool
  bytes : List UInt8 := []
  deriving Repr, DecidableEq

namespace Buffer

def push (buffer : Buffer) (chunk : List UInt8) : Buffer :=
  if buffer.keeps then { buffer with bytes := buffer.bytes ++ chunk } else buffer

def text (buffer : Buffer) : String :=
  String.ofList (decodeLossy buffer.bytes)

end Buffer

def lineFeed : UInt8 := 0x0A

def carriageReturn : UInt8 := 0x0D

/-- The text of a line, without one carriage return at its end. -/
def decodeLine (bytes : List UInt8) : String :=
  let content := if bytes.getLast? = some carriageReturn then bytes.dropLast else bytes
  String.ofList (decodeLossy content)

/-- The bytes of a line that is not complete yet, last one first. -/
structure LineSplitter where
  pending : List UInt8 := []
  deriving Repr, DecidableEq

namespace LineSplitter

/-- Takes a byte: a line feed completes a line.  The complete lines stand last first. -/
def step (state : LineSplitter × List String) (byte : UInt8) : LineSplitter × List String :=
  if byte = lineFeed then (⟨[]⟩, decodeLine state.1.pending.reverse :: state.2)
  else (⟨byte :: state.1.pending⟩, state.2)

def push (splitter : LineSplitter) (chunk : List UInt8) : LineSplitter × List String :=
  let (splitter, completed) := chunk.foldl step (splitter, [])
  (splitter, completed.reverse)

/-- The last line, if it has no line feed. -/
def finish (splitter : LineSplitter) : List String :=
  if splitter.pending.isEmpty then [] else [decodeLine splitter.pending.reverse]

end LineSplitter

end ArtifactRelease.Child
