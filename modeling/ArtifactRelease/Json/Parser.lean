import ArtifactRelease.Json.Token

/-!
# Reading JSON values

A text holds one value between blanks.  Containers may nest 127 deep: the reader for a value is
built by recursion on the depth that is left, and a container read at depth zero is refused before
its contents are looked at.  Of two fields with one key the later one counts.
-/

namespace ArtifactRelease.Json

/-- Looks for the next item of a list: whether there is one, and the text from it on. -/
def nextItem (first : Bool) (text : List Char) : Except Fault (Bool × List Char) :=
  match skipSpace text with
  | [] => .error .endOfList
  | ']' :: rest => .ok (false, ']' :: rest)
  | c :: rest =>
    if first then .ok (true, c :: rest)
    else if c = ',' then
      match skipSpace rest with
      | [] => .error .endOfValue
      | ']' :: _ => .error .trailingComma
      | later => .ok (true, later)
    else .error .expectedCommaOrBracket

/-- Looks for the next key of an object: whether there is one, and the text from behind its opening
quote on. -/
def nextKey (first : Bool) (text : List Char) : Except Fault (Bool × List Char) :=
  match skipSpace text with
  | [] => .error .endOfObject
  | '}' :: rest => .ok (false, '}' :: rest)
  | c :: rest =>
    if first then if c = '"' then .ok (true, rest) else .error .keyMustBeString
    else if c = ',' then
      match skipSpace rest with
      | [] => .error .endOfValue
      | '"' :: later => .ok (true, later)
      | '}' :: _ => .error .trailingComma
      | _ => .error .keyMustBeString
    else .error .expectedCommaOrBrace

def readColon (text : List Char) : Except Fault (List Char) :=
  match skipSpace text with
  | [] => .error .endOfObject
  | ':' :: rest => .ok rest
  | _ => .error .expectedColon

/-- Reads the items of a list up to its bracket.  Every item takes a character, so that `fuel` as
long as the text is enough. -/
def readItems (item : Reader Value) : (fuel : Nat) → (taken : List Value) → Reader (List Value)
  | 0, _, _ => .error .endOfList
  | fuel + 1, taken, text => do
    let (more, text) ← nextItem taken.isEmpty text
    if more then
      let (value, text) ← item text
      readItems item fuel (value :: taken) text
    else return (taken.reverse, text.drop 1)

def readFields (item : Reader Value) : (fuel : Nat) → (first : Bool) →
    (taken : List (String × Value)) → Reader (List (String × Value))
  | 0, _, _, _ => .error .endOfObject
  | fuel + 1, first, taken, text => do
    let (more, text) ← nextKey first text
    if more then
      let (key, text) ← readString text
      let text ← readColon text
      let (value, text) ← item text
      readFields item fuel false (Value.setField key value taken) text
    else return (taken, text.drop 1)

def readScalar (c : Char) (text : List Char) : Except Fault (Value × List Char) :=
  match c with
  | 'n' => do return (.null, ← readName "ull".toList text)
  | 't' => do return (.bool true, ← readName "rue".toList text)
  | 'f' => do return (.bool false, ← readName "alse".toList text)
  | '"' => do
    let (value, rest) ← readString text
    return (.string value, rest)
  | '-' => do
    let (numeral, rest) ← readNumeral true text
    return (numeral.value, rest)
  | c =>
    if Number.isDigit c then do
      let (numeral, rest) ← readNumeral false (c :: text)
      return (numeral.value, rest)
    else .error .expectedValue

/-- Reads a value in which containers nest at most `depth` deep. -/
def readValue : (depth : Nat) → Reader Value
  | depth, text =>
    match skipSpace text with
    | [] => .error .endOfValue
    | '[' :: rest =>
      match depth with
      | 0 => .error .tooDeep
      | depth + 1 => do
        let (items, rest) ← readItems (readValue depth) (rest.length + 1) [] rest
        return (.array items, rest)
    | '{' :: rest =>
      match depth with
      | 0 => .error .tooDeep
      | depth + 1 => do
        let (fields, rest) ← readFields (readValue depth) (rest.length + 1) true [] rest
        return (.object fields, rest)
    | c :: rest => readScalar c rest

/-- How deep containers may nest. -/
def maxDepth : Nat := 127

/-- What a reader makes of a whole text: nothing but blanks may be left. -/
def readAll {α : Type} (reader : Reader α) (text : String) : Except Fault α := do
  let (value, rest) ← reader text.toList
  if (skipSpace rest).isEmpty then return value else .error .trailingCharacters

def parse (text : String) : Except Fault Value :=
  readAll (readValue maxDepth) text

end ArtifactRelease.Json
