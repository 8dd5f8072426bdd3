import ArtifactRelease.Json.Parser

/-!
# Reading records from JSON

A record is read straight from the text, without a value in between, so that the first thing wrong
in reading order is what is reported.  It may be written as an object, whose fields come in any
order and may be accompanied by unknown ones, or as an array of its fields in order.  An unknown
field is passed over without being understood: its numbers may be out of range, its escapes may be
half a character and its nesting is not limited.
-/

namespace ArtifactRelease.Json

open ArtifactRelease.Number

/-! ## Passing over a value -/

inductive Bracket where
  | list
  | object
  deriving Repr, DecidableEq

/-- Passes over a string from behind its opening quote. -/
def skipStringBody : (fuel : Nat) → List Char → Except Fault (List Char)
  | _, [] => .error .endOfString
  | 0, _ => .error .endOfString
  | fuel + 1, c :: text =>
    if c = '"' then .ok text
    else if c = '\\' then
      match text with
      | [] => .error .endOfString
      | 'u' :: text => do
        let (_, rest) ← readHex text
        skipStringBody fuel rest
      | escaped :: text =>
        if escaped ∈ ['"', '\\', '/', 'b', 'f', 'n', 'r', 't'] then skipStringBody fuel text
        else .error .invalidEscape
    else if c.toNat < 0x20 then .error .controlCharacter
    else skipStringBody fuel text

def skipString (text : List Char) : Except Fault (List Char) :=
  skipStringBody text.length text

/-- Passes over digits, of which there must be one. -/
def skipDigits (text : List Char) : Except Fault (List Char) :=
  match text with
  | c :: rest => if isDigit c then .ok (rest.dropWhile isDigit) else .error .invalidNumber
  | [] => .error .invalidNumber

def skipExponent (text : List Char) : Except Fault (List Char) :=
  match text with
  | c :: rest => if c = '+' ∨ c = '-' then skipDigits rest else skipDigits text
  | [] => .error .invalidNumber

/-- Passes over what may follow the digits of a number. -/
def skipNumberTail (text : List Char) : Except Fault (List Char) :=
  match text with
  | c :: rest =>
    if c = '.' then do
      match ← skipDigits rest with
      | c :: later => if c = 'e' ∨ c = 'E' then skipExponent later else return c :: later
      | [] => return []
    else if c = 'e' ∨ c = 'E' then skipExponent rest
    else .ok text
  | [] => .ok []

/-- Passes over an unsigned number. -/
def skipNumber (text : List Char) : Except Fault (List Char) :=
  match text with
  | '0' :: rest =>
    if rest.head?.map isDigit = some true then .error .invalidNumber else skipNumberTail rest
  | _ => do skipNumberTail (← skipDigits text)

/-- Passes over the end of an item: closes the brackets that end here.  The result is the brackets
that stay open, and the text where the next item of the innermost one starts. -/
def skipClosings : (afterItem : Bool) → (enclosing : List Bracket) → List Char →
    Except Fault (List Bracket × List Char)
  | _, [], text => .ok ([], text)
  | afterItem, bracket :: outer, text =>
    match skipSpace text, bracket with
    | [], .list => .error .endOfList
    | [], .object => .error .endOfObject
    | ']' :: rest, .list => skipClosings true outer rest
    | '}' :: rest, .object => skipClosings true outer rest
    | c :: rest, bracket =>
      if afterItem then
        if c = ',' then .ok (bracket :: outer, rest)
        else match bracket with
          | .list => .error .expectedCommaOrBracket
          | .object => .error .expectedCommaOrBrace
      else .ok (bracket :: outer, c :: rest)

def skipKey (text : List Char) : Except Fault (List Char) :=
  match skipSpace text with
  | [] => .error .endOfObject
  | '"' :: rest => do readColon (← skipString rest)
  | _ => .error .keyMustBeString

/-- Passes over a scalar, or over the bracket that opens a container. -/
def skipHead (text : List Char) : Except Fault (Option Bracket × List Char) :=
  match skipSpace text with
  | [] => .error .endOfValue
  | '[' :: rest => .ok (some .list, rest)
  | '{' :: rest => .ok (some .object, rest)
  | 'n' :: rest => do return (none, ← readName "ull".toList rest)
  | 't' :: rest => do return (none, ← readName "rue".toList rest)
  | 'f' :: rest => do return (none, ← readName "alse".toList rest)
  | '"' :: rest => do return (none, ← skipString rest)
  | '-' :: rest => do return (none, ← skipNumber rest)
  | c :: rest =>
    if isDigit c then do return (none, ← skipNumber (c :: rest)) else .error .expectedValue

/-- Passes over values until all brackets are closed; each round takes a character. -/
def skipValues : (fuel : Nat) → (enclosing : List Bracket) → List Char → Except Fault (List Char)
  | 0, _, _ => .error .endOfValue
  | fuel + 1, enclosing, text => do
    let (opened, text) ← skipHead text
    let (enclosing, text) ← match opened with
      | some bracket => skipClosings false (bracket :: enclosing) text
      | none => skipClosings true enclosing text
    match enclosing with
    | [] => return text
    | .list :: outer => skipValues fuel (.list :: outer) text
    | .object :: outer => skipValues fuel (.object :: outer) (← skipKey text)

def skipValue (text : List Char) : Except Fault (List Char) :=
  skipValues (text.length + 1) [] text

/-! ## Typed readers -/

/-- The fault for a value of another kind than the wanted one, which starts at `text`. -/
def wrongKind (wanted : String) (text : List Char) : Fault :=
  match text with
  | [] => .expectedValue
  | '[' :: _ => .invalidType .sequence wanted
  | '{' :: _ => .invalidType .map wanted
  | c :: rest =>
    match readScalar c rest with
    | .error fault => fault
    | .ok (.null, _) => .invalidType .null wanted
    | .ok (.bool value, _) => .invalidType (.bool value) wanted
    | .ok (.integer value, _) => .invalidType (.integer value) wanted
    | .ok (.double value, _) => .invalidType (.double value) wanted
    | .ok (.string value, _) => .invalidType (.string value) wanted
    | .ok (.array _, _) => .invalidType .sequence wanted
    | .ok (.object _, _) => .invalidType .map wanted

def readText (wanted : String) : Reader String
  | text =>
    match skipSpace text with
    | [] => .error .endOfValue
    | '"' :: rest => readString rest
    | text => .error (wrongKind wanted text)

def readBool : Reader Bool
  | text =>
    match skipSpace text with
    | [] => .error .endOfValue
    | 't' :: rest => do return (true, ← readName "rue".toList rest)
    | 'f' :: rest => do return (false, ← readName "alse".toList rest)
    | text => .error (wrongKind "a boolean" text)

def readUnit : Reader Unit
  | text =>
    match skipSpace text with
    | [] => .error .endOfValue
    | 'n' :: rest => do return ((), ← readName "ull".toList rest)
    | text => .error (wrongKind "unit" text)

/-- `null` is the absence of a value. -/
def readOptional {α : Type} (reader : Reader α) : Reader (Option α)
  | text =>
    match skipSpace text with
    | 'n' :: rest => do return (none, ← readName "ull".toList rest)
    | text => do
      let (value, rest) ← reader text
      return (some value, rest)

/-- Ends an array of which all that is wanted has been read. -/
def endList (text : List Char) : Except Fault (List Char) :=
  match skipSpace text with
  | [] => .error .endOfList
  | ']' :: rest => .ok rest
  | ',' :: rest =>
    match skipSpace rest with
    | ']' :: _ => .error .trailingComma
    | _ => .error .trailingCharacters
  | _ => .error .trailingCharacters

def readTextsBody : (fuel : Nat) → (taken : List String) → Reader (List String)
  | 0, _, _ => .error .endOfList
  | fuel + 1, taken, text => do
    let (more, text) ← nextItem taken.isEmpty text
    if more then
      let (value, text) ← readText "a string" text
      readTextsBody fuel (value :: taken) text
    else return (taken.reverse, ← endList text)

def readTexts : Reader (List String)
  | text =>
    match skipSpace text with
    | [] => .error .endOfValue
    | '[' :: rest => readTextsBody (rest.length + 1) [] rest
    | text => .error (wrongKind "a sequence" text)

/-! ## Records -/

/-- A field of a record that is read into a draft `δ` of it. -/
structure Slot (δ : Type) where
  name : String
  required : Bool
  filled : δ → Bool
  fill : δ → Reader δ

/-- A record: the name that messages give it, its fields in order, and the draft before any is
read. -/
structure Layout (δ : Type) where
  name : String
  slots : List (Slot δ)
  blank : δ

namespace Layout

variable {δ : Type}

/-- Reads the fields of an object form, up to its brace. -/
def readObject (layout : Layout δ) : (fuel : Nat) → (first : Bool) → (draft : δ) → Reader δ
  | 0, _, _, _ => .error .endOfObject
  | fuel + 1, first, draft, text => do
    let (more, text) ← nextKey first text
    if more then
      let (key, text) ← readString text
      match layout.slots.find? (·.name = key) with
      | some slot =>
        if slot.filled draft then .error (.duplicateField key)
        else
          let (draft, text) ← slot.fill draft (← readColon text)
          readObject layout fuel false draft text
      | none => readObject layout fuel false draft (← skipValue (← readColon text))
    else
      match layout.slots.find? (fun slot => slot.required && !slot.filled draft) with
      | some slot => .error (.missingField slot.name)
      | none => return (draft, text.drop 1)

/-- Reads the fields of an array form in order; `index` counts those before. -/
def readArray (layout : Layout δ) : (index : Nat) → List (Slot δ) → (draft : δ) → Reader δ
  | _, [], draft, text => do return (draft, ← endList text)
  | index, slot :: later, draft, text => do
    let (more, text) ← nextItem (index = 0) text
    if more then
      let (draft, text) ← slot.fill draft text
      readArray layout (index + 1) later draft text
    else if slot.required then
      .error (.invalidLength index
        s!"struct {layout.name} with {layout.slots.length} elements")
    else readArray layout (index + 1) later draft text

/-- Reads a record in one of its two forms. -/
def read (layout : Layout δ) : Reader δ
  | text =>
    match skipSpace text with
    | [] => .error .endOfValue
    | '[' :: rest => layout.readArray 0 layout.slots layout.blank rest
    | '{' :: rest => layout.readObject (rest.length + 1) true layout.blank rest
    | text => .error (wrongKind s!"struct {layout.name}" text)

end Layout

end ArtifactRelease.Json
