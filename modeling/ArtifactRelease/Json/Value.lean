import ArtifactRelease.Number.Decimal

/-!
# JSON values and their text

Two layouts of one value.  The compact text has no blanks.  The pretty text puts every item and
every field on a line of its own, two spaces deeper than its container, and leaves empty
containers closed. A string is written with the short escapes where there is one, with `\u00xx`
for the other control characters, and with everything else as it is.
-/

namespace ArtifactRelease.Json

open ArtifactRelease.Number

/-- A JSON value; the fields of an object stand in the order in which they were first given. -/
inductive Value where
  | null
  | bool (value : Bool)
  | integer (value : Int)
  | double (value : Binary64)
  | string (value : String)
  | array (items : List Value)
  | object (fields : List (String × Value))
  deriving Repr, Inhabited, BEq

def escapeChar (c : Char) : List Char :=
  if c = '"' then ['\\', '"']
  else if c = '\\' then ['\\', '\\']
  else if c.toNat = 0x08 then ['\\', 'b']
  else if c.toNat = 0x0C then ['\\', 'f']
  else if c = '\n' then ['\\', 'n']
  else if c = '\r' then ['\\', 'r']
  else if c = '\t' then ['\\', 't']
  else if c.toNat < 0x20 then
    ['\\', 'u', '0', '0', Nat.digitChar (c.toNat / 16), Nat.digitChar (c.toNat % 16)]
  else [c]

def stringText (text : String) : List Char :=
  '"' :: (text.toList.flatMap escapeChar ++ ['"'])

def integerText (value : Int) : List Char :=
  if value < 0 then '-' :: digits value.natAbs else digits value.natAbs

mutual

def Value.compactChars : Value → List Char
  | .null => "null".toList
  | .bool true => "true".toList
  | .bool false => "false".toList
  | .integer value => integerText value
  | .double value => value.text
  | .string value => stringText value
  | .array items => '[' :: (compactItems items ++ [']'])
  | .object fields => '{' :: (compactFields fields ++ ['}'])

def compactItems : List Value → List Char
  | [] => []
  | [item] => item.compactChars
  | item :: later => item.compactChars ++ ',' :: compactItems later

def compactFields : List (String × Value) → List Char
  | [] => []
  | [(key, value)] => stringText key ++ ':' :: value.compactChars
  | (key, value) :: later =>
    stringText key ++ ':' :: (value.compactChars ++ ',' :: compactFields later)

end

/-- The start of a line at a depth. -/
def newLine (depth : Nat) : List Char :=
  '\n' :: List.replicate (2 * depth) ' '

mutual

def Value.prettyChars (depth : Nat) : Value → List Char
  | .null => "null".toList
  | .bool true => "true".toList
  | .bool false => "false".toList
  | .integer value => integerText value
  | .double value => value.text
  | .string value => stringText value
  | .array [] => ['[', ']']
  | .array (item :: later) =>
    '[' :: (prettyItems (depth + 1) (item :: later) ++ newLine depth ++ [']'])
  | .object [] => ['{', '}']
  | .object (field :: later) =>
    '{' :: (prettyFields (depth + 1) (field :: later) ++ newLine depth ++ ['}'])

def prettyItems (depth : Nat) : List Value → List Char
  | [] => []
  | [item] => newLine depth ++ item.prettyChars depth
  | item :: later => newLine depth ++ item.prettyChars depth ++ ',' :: prettyItems depth later

def prettyFields (depth : Nat) : List (String × Value) → List Char
  | [] => []
  | [(key, value)] =>
    newLine depth ++ stringText key ++ ':' :: ' ' :: value.prettyChars depth
  | (key, value) :: later =>
    newLine depth ++ stringText key
      ++ ':' :: ' ' :: (value.prettyChars depth ++ ',' :: prettyFields depth later)

end

namespace Value

/-- The text without blanks. -/
def compact (value : Value) : String :=
  String.ofList value.compactChars

/-- The text over several lines. -/
def pretty (value : Value) : String :=
  String.ofList (value.prettyChars 0)

/-- The fields with `key` set: a key that is there keeps its place, a new one goes last. -/
def setField (key : String) (value : Value) : List (String × Value) → List (String × Value)
  | [] => [(key, value)]
  | (other, old) :: later =>
    if other = key then (key, value) :: later else (other, old) :: setField key value later

/-- A field for an optional setting: absent when there is none. -/
def optionalField (key : String) : Option String → List (String × Value)
  | none => []
  | some text => [(key, .string text)]

end Value

end ArtifactRelease.Json
