import ArtifactRelease.Json.Record

/-!
# Artifacts

The kind of artifact that is built, and the place in object storage where it is kept.
-/

namespace ArtifactRelease

open Json

inductive ArtifactKind where
  | taskScripts
  deriving Repr, DecidableEq

namespace ArtifactKind

def name : ArtifactKind → String
  | .taskScripts => "task-scripts"

def json (kind : ArtifactKind) : Value :=
  .string kind.name

def readName : Reader ArtifactKind
  | text => do
    let (name, rest) ← readText "variant identifier" text
    if name = taskScripts.name then return (.taskScripts, rest)
    else .error (.unknownVariant name taskScripts.name)

/-- Reads the name of a kind as the key of an object that has just been opened. -/
def readKey : Reader ArtifactKind
  | text =>
    match skipSpace text with
    | [] => .error .endOfObject
    | '"' :: rest => readName ('"' :: rest)
    | '}' :: _ => .error .expectedValue
    | _ => .error .keyMustBeString

/-- Reads a kind: its name, or an object with the name as its only key and null as the value. -/
def read : Reader ArtifactKind
  | text =>
    match skipSpace text with
    | [] => .error .endOfValue
    | '"' :: rest => readName ('"' :: rest)
    | '{' :: rest => do
      let (kind, rest) ← readKey rest
      let (_, rest) ← readUnit (← readColon rest)
      match skipSpace rest with
      | '}' :: rest => return (kind, rest)
      | [] => .error .endOfObject
      | _ => .error .expectedValue
    | _ => .error .expectedValue

def parse (text : String) : Except Fault ArtifactKind :=
  readAll read text

end ArtifactKind

/-- A folder of a bucket at a storage endpoint. -/
structure ArtifactLocation where
  endpoint : String
  bucket : String
  folder : String
  deriving Repr, DecidableEq

namespace ArtifactLocation

def display (location : ArtifactLocation) : String :=
  s!"{location.endpoint}/{location.bucket}/{location.folder}"

def json (location : ArtifactLocation) : Value :=
  .object [("endpoint", .string location.endpoint), ("bucket", .string location.bucket),
    ("prefix", .string location.folder)]

structure Draft where
  endpoint : Option String := none
  bucket : Option String := none
  folder : Option String := none

def layout : Layout Draft where
  name := "ArtifactLocation"
  blank := {}
  slots := [
    ⟨"endpoint", true, (·.endpoint.isSome), fun draft text => do
      let (value, rest) ← readText "a string" text
      return ({ draft with endpoint := some value }, rest)⟩,
    ⟨"bucket", true, (·.bucket.isSome), fun draft text => do
      let (value, rest) ← readText "a string" text
      return ({ draft with bucket := some value }, rest)⟩,
    ⟨"prefix", true, (·.folder.isSome), fun draft text => do
      let (value, rest) ← readText "a string" text
      return ({ draft with folder := some value }, rest)⟩]

/-- The layout leaves no field empty. -/
def Draft.finish (draft : Draft) : ArtifactLocation :=
  ⟨draft.endpoint.getD "", draft.bucket.getD "", draft.folder.getD ""⟩

def parse (text : String) : Except Fault ArtifactLocation := do
  return (← readAll layout.read text).finish

end ArtifactLocation

end ArtifactRelease
