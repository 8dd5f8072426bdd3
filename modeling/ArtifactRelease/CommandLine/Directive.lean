import ArtifactRelease.Log
import ArtifactRelease.Text.Alphanumeric
import ArtifactRelease.Text.Blank
import ArtifactRelease.Text.Lines
import ArtifactRelease.Text.Pattern.Parser

/-!
# Directives of log filters

A directive is a level, or a source of events and a level; without a level everything is shown.  In
brackets between the two may stand the name of a span and, in braces, a field or a field and a
pattern for its text: `source[span{field=pattern}]=level`.

The parts are found in the text without the blanks around it, but cut out of the text as it was
given, at the same distances in bytes from the start.  So blanks in front shift all parts, and
mostly no level is left; where the shift brings a cut inside of a character, reading breaks down.
-/

namespace ArtifactRelease.CommandLine

open ArtifactRelease.Log ArtifactRelease.Text

/-- A condition on the value of a field. -/
inductive ValueTest where
  /-- A number or a truth value, which no text meets. -/
  | scalar
  /-- A pattern, told from others by how it is written. -/
  | pattern (written : String) (pattern : Pattern)
  deriving Repr, DecidableEq

def ValueTest.meets (text : String) : ValueTest → Bool
  | .scalar => false
  | .pattern _ described => described.accepts text.toList

/-- A condition on a field: that it is there and, perhaps, one on its value. -/
structure FieldTest where
  name : String
  value : Option ValueTest := none
  deriving Repr, DecidableEq

structure Directive where
  source : Option String := none
  span : Option String := none
  field : Option FieldTest := none
  /-- The least weight of the levels shown. -/
  threshold : Nat := Level.trace.weight
  deriving Repr, DecidableEq

/-- Above all weights: nothing is shown. -/
def nothingShown : Nat := 6

/-- A number as its digits, leading zeros and a plus sign allowed. -/
def plainNumber? (text : List Char) : Option Nat :=
  let digits := match text with
    | '+' :: digits => digits
    | _ => text
  if !digits.isEmpty && digits.all Char.isDigit then some (Number.ofDigits digits) else none

/-- The least weight that a level lets through: a number or a name, up to ASCII case. -/
def threshold? (name : String) : Option Nat :=
  match plainNumber? name.toList with
  | some number => if number ≤ 5 then some (nothingShown - number) else none
  | none =>
    match String.ofList (name.toList.map Char.toLower) with
    | "off" => some nothingShown
    | "error" => some Level.error.weight
    | "warn" => some Level.warn.weight
    | "info" => some Level.info.weight
    | "debug" => some Level.debug.weight
    | "trace" => some Level.trace.weight
    | _ => none

/-- Whether a directive may start with a character: letters, digits, and the three signs that names
of sources have. -/
def startsDirective (c : Char) : Bool :=
  isAlphanumeric c || c ∈ ['-', ':', '_']

/-- The digits of a decimal number with at most one point and perhaps an exponent. -/
def isDecimal (text : List Char) : Bool :=
  let whole := text.dropWhile Char.isDigit
  let (places, rest) := match whole with
    | '.' :: rest => (rest.takeWhile Char.isDigit, rest.dropWhile Char.isDigit)
    | _ => ([], whole)
  let mantissa := whole.length < text.length || !places.isEmpty
  let exponent := match rest with
    | [] => true
    | c :: rest =>
      let digits := match rest with
        | '+' :: digits => digits
        | '-' :: digits => digits
        | _ => rest
      (c = 'e' || c = 'E') && !digits.isEmpty && digits.all Char.isDigit
  mantissa && exponent

/-- Whether a text stands for a number or a truth value. -/
def isScalar (text : String) : Bool :=
  let magnitude := match text.toList with
    | '+' :: magnitude => magnitude
    | '-' :: magnitude => magnitude
    | magnitude => magnitude
  text ∈ ["true", "false"] || isDecimal magnitude
    || String.ofList (magnitude.map Char.toLower) ∈ ["inf", "infinity", "nan"]

/-- A field test; what stands behind a second equals sign does not count. -/
def FieldTest.parse? (text : String) : Option FieldTest :=
  match pieces '=' text with
  | name :: value :: _ =>
    if isScalar value then some ⟨name, some .scalar⟩
    else (Pattern.parse? value).map fun pattern => ⟨name, some (.pattern value pattern)⟩
  | _ => some ⟨text, none⟩

namespace Directive

inductive Fault where
  | malformed
  /-- A part would begin or end inside of a character. -/
  | brokenCharacter
  deriving Repr, DecidableEq

/-- How far the reading of a directive has come; the number is where the part began. -/
inductive Stage where
  | start
  | name (start : Nat)
  | span (start : Nat)
  | field (start : Nat)
  | fieldsClosed
  | spanClosed
  | level (start : Nat)
  deriving Repr, DecidableEq

/-- Divides a text behind a number of bytes, unless that is inside of a character. -/
def divide? : Nat → List Char → Option (List Char × List Char)
  | 0, text => some ([], text)
  | _, [] => none
  | bytes, c :: rest =>
    if bytes < c.utf8Size then none
    else (divide? (bytes - c.utf8Size) rest).map fun (before, behind) => (c :: before, behind)

/-- The part of a text from one byte position up to another. -/
def cut (text : List Char) (start stop : Nat) : Except Fault String :=
  match (divide? stop text).bind fun (before, _) => divide? start before with
  | some (_, part) => .ok (String.ofList part)
  | none => .error .brokenCharacter

/-- Takes one character at a byte position. -/
def step (text : List Char) (directive : Directive) (position : Nat) (c : Char) :
    Stage → Except Fault (Directive × Stage)
  | .start =>
    if c = '[' then .ok (directive, .span (position + 1))
    else if startsDirective c then .ok (directive, .name position)
    else .error .malformed
  | .name start => do
    if c = '=' then
      return ({ directive with source := some (← cut text start position) }, .level (position + 1))
    else if c = '[' then
      return ({ directive with source := some (← cut text start position) }, .span (position + 1))
    else return (directive, .name start)
  | .span start => do
    if c = ']' then
      return ({ directive with span := some (← cut text start position) }, .spanClosed)
    else if c = '\x7b' then
      let name ← cut text start position
      return ({ directive with span := if name.isEmpty then none else some name },
        .field (position + 1))
    else return (directive, .span start)
  | .field start => do
    if c = '\x7d' then
      let test ← cut text start position
      match if test.isEmpty then none else FieldTest.parse? test with
      | some field => return ({ directive with field := some field }, .fieldsClosed)
      | none => .error .malformed
    else return (directive, .field start)
  | .fieldsClosed =>
    if c = ']' then .ok (directive, .spanClosed) else .error .malformed
  | .spanClosed =>
    if c = '=' then .ok (directive, .level (position + 1)) else .error .malformed
  | .level start => .ok (directive, .level start)

def walk (text : List Char) :
    Directive → Stage → Nat → List Char → Except Fault (Directive × Stage)
  | directive, stage, _, [] => .ok (directive, stage)
  | directive, stage, position, c :: rest => do
    let (directive, stage) ← step text directive position c stage
    walk text directive stage (position + c.utf8Size) rest

/-- What is left from a byte position on. -/
def remainder (text : List Char) (start : Nat) : Except Fault String :=
  match divide? start text with
  | some (_, part) => .ok (String.ofList part)
  | none => .error .brokenCharacter

def parse (text : String) : Except Fault Directive := do
  let given := text.toList
  let (directive, stage) ← walk given {} .start 0 (trim given)
  match stage with
  | .name start =>
    let name ← remainder given start
    match threshold? name with
    | some threshold => return { directive with threshold }
    | none => return { directive with source := some name }
  | .level start =>
    let name ← remainder given start
    if name.isEmpty then return directive
    else match threshold? name with
      | some threshold => return { directive with threshold }
      | none => .error .malformed
  | .spanClosed => return directive
  | _ => .error .malformed

end Directive

end ArtifactRelease.CommandLine
