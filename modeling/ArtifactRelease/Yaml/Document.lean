import ArtifactRelease.Yaml.Scalar

/-!
# YAML documents

Block mappings and sequences over scalars.  A nested mapping is indented by two; the items of a
sequence stand at the indentation of their key; an empty container is written in line.
-/

namespace ArtifactRelease.Yaml

inductive Node where
  | bool (value : Bool)
  | string (value : String)
  | sequence (items : List String)
  | mapping (fields : List (String × Node))
  deriving Repr

/-- Ends a line, unless a literal block has ended it already. -/
def endLine (text : List Char) : List Char :=
  if text.getLast?.any isBreak then text else text ++ ['\n']

def itemLine (indent : Nat) (item : String) : List Char :=
  endLine (spaces indent ++ '-' :: ' ' :: scalar (indent + 2) item.toList)

mutual

/-- What follows a key and its colon. -/
def Node.render (indent : Nat) : Node → List Char
  | .bool true => " true\n".toList
  | .bool false => " false\n".toList
  | .string value => endLine (' ' :: scalar (indent + 2) value.toList)
  | .sequence [] => " []\n".toList
  | .sequence (item :: later) => '\n' :: (item :: later).flatMap (itemLine indent)
  | .mapping [] => " \x7b\x7d\n".toList
  | .mapping (field :: later) => '\n' :: renderFields (indent + 2) (field :: later)

/-- The fields of a mapping, each from the start of a line. -/
def renderFields (indent : Nat) : List (String × Node) → List Char
  | [] => []
  | (key, node) :: later =>
    spaces indent ++ key.toList ++ ':' :: (node.render indent ++ renderFields indent later)

end

/-- A document that is one mapping. -/
def document (fields : List (String × Node)) : List Char :=
  renderFields 0 fields

end ArtifactRelease.Yaml
