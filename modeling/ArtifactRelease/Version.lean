import ArtifactRelease.Number.Decimal
import ArtifactRelease.Text.Lines
import ArtifactRelease.Text.Quoted

/-!
# Semantic versions

A version is three numbers of at most 64 bits, then optional pre-release identifiers behind a
hyphen and optional build identifiers behind a plus sign.  Numbers, and pre-release identifiers
that are all digits, have no leading zeros, so that a version has one spelling only.
-/

namespace ArtifactRelease

open ArtifactRelease.Number ArtifactRelease.Text

structure Version where
  major : Nat
  minor : Nat
  patch : Nat
  preRelease : List String := []
  build : List String := []
  deriving Repr, DecidableEq

namespace Version

inductive Part where
  | major
  | minor
  | patch
  | preRelease
  | build
  deriving Repr, DecidableEq

inductive Fault where
  | empty
  | unexpectedEnd (part : Part)
  | unexpectedChar (part : Part) (c : Char)
  | unexpectedCharAfter (part : Part) (c : Char)
  | leadingZero (part : Part)
  | overflow (part : Part)
  | emptySegment (part : Part)
  deriving Repr, DecidableEq

def Part.describe : Part → String
  | .major => "major version number"
  | .minor => "minor version number"
  | .patch => "patch version number"
  | .preRelease => "pre-release identifier"
  | .build => "build metadata"

def Fault.message : Fault → String
  | .empty => "empty string, expected a semver version"
  | .unexpectedEnd part => s!"unexpected end of input while parsing {part.describe}"
  | .unexpectedChar part c => s!"unexpected character {charLiteral c} while parsing {part.describe}"
  | .unexpectedCharAfter part c => s!"unexpected character {charLiteral c} after {part.describe}"
  | .leadingZero part => s!"invalid leading zero in {part.describe}"
  | .overflow part => s!"value of {part.describe} exceeds u64::MAX"
  | .emptySegment part => s!"empty identifier segment in {part.describe}"

def maxNumber : Nat := UInt64.size - 1

def readNumber (part : Part) (text : List Char) : Except Fault (Nat × List Char) :=
  match text.takeWhile isDigit, text.dropWhile isDigit with
  | [], [] => .error (.unexpectedEnd part)
  | [], c :: _ => .error (.unexpectedChar part c)
  | '0' :: _ :: _, _ => .error (.leadingZero part)
  | shown, rest =>
    if ofDigits shown ≤ maxNumber then .ok (ofDigits shown, rest) else .error (.overflow part)

def readDot (part : Part) (text : List Char) : Except Fault (List Char) :=
  match text with
  | '.' :: rest => .ok rest
  | c :: _ => .error (.unexpectedCharAfter part c)
  | [] => .error (.unexpectedEnd part)

def isIdentifierChar (c : Char) : Bool :=
  isDigit c || ('A' ≤ c && c ≤ 'Z') || ('a' ≤ c && c ≤ 'z') || c = '-'

def hasLeadingZero (identifier : List Char) : Bool :=
  match identifier with
  | '0' :: c :: rest => (c :: rest).all isDigit
  | _ => false

def checkIdentifier (part : Part) (identifier : List Char) : Except Fault String :=
  if identifier.isEmpty then .error (.emptySegment part)
  else if part = .preRelease ∧ hasLeadingZero identifier then .error (.leadingZero part)
  else .ok (String.ofList identifier)

/-- Reads the identifiers behind a mark, up to the first character that belongs to none. -/
def readIdentifiers (part : Part) (text : List Char) : Except Fault (List String × List Char) := do
  let inBody (c : Char) : Bool := isIdentifierChar c || c = '.'
  let identifiers ← (splitOn '.' (text.takeWhile inBody)).mapM (checkIdentifier part)
  return (identifiers, text.dropWhile inBody)

/-- Reads the identifiers of a part if its mark is there. -/
def readOptional (mark : Char) (part : Part) (text : List Char) :
    Except Fault (List String × List Char) :=
  match text with
  | c :: rest => if c = mark then readIdentifiers part rest else .ok ([], text)
  | [] => .ok ([], [])

def lastPart (preRelease build : List String) : Part :=
  if !build.isEmpty then .build else if !preRelease.isEmpty then .preRelease else .patch

def parseChars (text : List Char) : Except Fault Version := do
  if text.isEmpty then throw .empty
  let (major, text) ← readNumber .major text
  let text ← readDot .major text
  let (minor, text) ← readNumber .minor text
  let text ← readDot .minor text
  let (patch, text) ← readNumber .patch text
  let (preRelease, text) ← readOptional '-' .preRelease text
  let (build, text) ← readOptional '+' .build text
  match text with
  | [] => return ⟨major, minor, patch, preRelease, build⟩
  | c :: _ => throw (.unexpectedCharAfter (lastPart preRelease build) c)

def parse (text : String) : Except Fault Version :=
  parseChars text.toList

/-- Identifiers with dots between them. -/
def dottedChars (identifiers : List String) : List Char :=
  ['.'].intercalate (identifiers.map String.toList)

/-- A part with its mark, if there is anything in it. -/
def marked (mark : Char) (identifiers : List String) : List Char :=
  if identifiers.isEmpty then [] else mark :: dottedChars identifiers

def textChars (version : Version) : List Char :=
  digits version.major ++ '.' :: digits version.minor ++ '.' :: digits version.patch
    ++ marked '-' version.preRelease ++ marked '+' version.build

def text (version : Version) : String :=
  String.ofList version.textChars

def dotted (identifiers : List String) : String :=
  String.ofList (dottedChars identifiers)

end Version

end ArtifactRelease
