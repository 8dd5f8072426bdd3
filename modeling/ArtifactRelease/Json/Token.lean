import ArtifactRelease.Json.Fault

/-!
# Tokens of a JSON text

The leaves of the grammar: blanks, the three literal names, numbers and strings.  Each reader
takes the text from where it is and gives what it read and the rest.  A number that is an integer
between `-2 ^ 63` and `2 ^ 64 - 1` stays one; every other number is a double, computed from at
most the first twenty or so digits by one rounding to 64 bits and one multiplication or division
by a power of ten.
-/

namespace ArtifactRelease.Json

open ArtifactRelease.Number

/-- Reads something from the front of a text. -/
abbrev Reader (α : Type) := List Char → Except Fault (α × List Char)

/-- The blanks of JSON itself. -/
def isSpace (c : Char) : Bool :=
  c = ' ' || c = '\t' || c = '\n' || c = '\r'

def skipSpace (text : List Char) : List Char :=
  text.dropWhile isSpace

/-- Reads the rest of a literal name. -/
def readName : List Char → List Char → Except Fault (List Char)
  | [], text => .ok text
  | _ :: _, [] => .error .endOfValue
  | expected :: name, c :: text =>
    if c = expected then readName name text else .error .expectedIdent

/-! ## Numbers -/

inductive Numeral where
  | integer (value : Int)
  | double (value : Binary64)
  deriving Repr, DecidableEq

def Numeral.value : Numeral → Value
  | .integer value => .integer value
  | .double value => .double value

def Numeral.found : Numeral → Found
  | .integer value => .integer value
  | .double value => .double value

/-- The largest number that fits in 64 bits. -/
def maxSignificand : Nat := UInt64.size - 1

/-- Adds digits to a significand as long as it fits in 64 bits: the result, how many digits were
taken, and the rest. -/
def takeDigits (significand : Nat) (taken : Nat) : List Char → Nat × Nat × List Char
  | [] => (significand, taken, [])
  | c :: text =>
    if isDigit c then
      let next := significand * 10 + (c.toNat - 0x30)
      if next ≤ maxSignificand then takeDigits next (taken + 1) text
      else (significand, taken, c :: text)
    else (significand, taken, c :: text)

/-- Divides by a power of ten in steps of at most `1e308`; zero stays zero. -/
def divideByPowerOfTen (number : Binary64) (power : Nat) : Binary64 :=
  if power ≤ 308 then
    ((Binary64.powerOfTen? power).bind number.div?).getD number
  else if number.isZero then number
  else divideByPowerOfTen (((Binary64.powerOfTen? 308).bind number.div?).getD number) (power - 308)
termination_by power
decreasing_by omega

/-- The double `significand · 10 ^ exponent`. -/
def makeDouble (negative : Bool) (significand : Nat) (exponent : Int) : Except Fault Binary64 :=
  let base := (Binary64.ofNat? significand).getD Binary64.zero
  let signed (number : Binary64) : Binary64 := { number with negative }
  if 0 ≤ exponent then
    if exponent ≤ 308 then
      match (Binary64.powerOfTen? exponent.toNat).bind base.mul? with
      | some number => .ok (signed number)
      | none => .error .numberOutOfRange
    else if base.isZero then .ok (signed base)
    else .error .numberOutOfRange
  else .ok (signed (divideByPowerOfTen base (-exponent).toNat))

/-- The largest exponent that is read as a number. -/
def maxExponent : Nat := 2147483647

/-- Reads an exponent from behind its mark. -/
def readExponent (negative : Bool) (significand : Nat) (exponent : Int) : Reader Binary64
  | text =>
    let signed := text.head? = some '+' ∨ text.head? = some '-'
    let down := text.head? = some '-'
    let body := if signed then text.drop 1 else text
    match body with
    | [] => .error .endOfValue
    | c :: _ =>
      if isDigit c then
        let shown := body.takeWhile isDigit
        let rest := body.dropWhile isDigit
        if ofDigits shown ≤ maxExponent then do
          let shift : Int := ofDigits shown
          let exponent := if down then exponent - shift else exponent + shift
          return (← makeDouble negative significand exponent, rest)
        else if significand ≠ 0 ∧ ¬ down then .error .numberOutOfRange
        else .ok ({ Binary64.zero with negative }, rest)
      else .error .invalidNumber

/-- Reads what may follow the digits of a number that is a double by now. -/
def readDoubleTail (negative : Bool) (significand : Nat) (exponent : Int) : Reader Binary64
  | 'e' :: text => readExponent negative significand exponent text
  | 'E' :: text => readExponent negative significand exponent text
  | text => do return (← makeDouble negative significand exponent, text)

/-- Reads the digits after a point; those that do not fit any more are dropped. -/
def readFraction (negative : Bool) (significand : Nat) (exponent : Int) : Reader Binary64
  | text =>
    match text with
    | [] => .error .endOfValue
    | c :: _ =>
      if isDigit c then
        let (fraction, taken, rest) := takeDigits significand 0 text
        readDoubleTail negative fraction (exponent - taken) (rest.dropWhile isDigit)
      else .error .invalidNumber

/-- Reads an unsigned number; `negative` is the sign that stood before it. -/
def readNumeral (negative : Bool) : Reader Numeral
  | [] => .error .endOfValue
  | first :: text =>
    if first = '0' ∧ (text.head?.map isDigit = some true) then .error .invalidNumber
    else if isDigit first then
      let (significand, _, rest) :=
        if first = '0' then (0, 0, text) else takeDigits 0 0 (first :: text)
      let dropped := (rest.takeWhile isDigit).length
      match rest.dropWhile isDigit with
      | '.' :: later => do
        let (number, later) ← readFraction negative significand dropped later
        return (.double number, later)
      | later =>
        if later.head? = some 'e' ∨ later.head? = some 'E' ∨ dropped ≠ 0 then do
          let (number, later) ← readDoubleTail negative significand dropped later
          return (.double number, later)
        else if negative then
          if significand = 0 ∨ 9223372036854775808 < significand then
            let number := (Binary64.ofNat? significand).getD Binary64.zero
            .ok (.double { number with negative := true }, later)
          else .ok (.integer (-(significand : Int)), later)
        else .ok (.integer significand, later)
    else .error .invalidNumber

/-! ## Strings -/

def hexValue? (c : Char) : Option Nat :=
  if '0' ≤ c ∧ c ≤ '9' then some (c.toNat - 0x30)
  else if 'a' ≤ c ∧ c ≤ 'f' then some (c.toNat - 0x61 + 10)
  else if 'A' ≤ c ∧ c ≤ 'F' then some (c.toNat - 0x41 + 10)
  else none

/-- Whether at least four bytes of text are left. -/
def hasFourBytes (text : List Char) : Bool :=
  4 ≤ (text.take 4).foldl (fun size c => size + c.utf8Size) 0

/-- Reads the four digits of a `\u` escape. -/
def readHex : Reader Nat
  | text =>
    let broken := if hasFourBytes text then Fault.invalidEscape else Fault.endOfString
    match text with
    | a :: b :: c :: d :: rest =>
      match hexValue? a, hexValue? b, hexValue? c, hexValue? d with
      | some a, some b, some c, some d => .ok (((a * 16 + b) * 16 + c) * 16 + d, rest)
      | _, _, _, _ => .error broken
    | _ => .error broken

/-- Reads the second half of a character outside the basic plane. -/
def readLowSurrogate (high : Nat) : Reader Char
  | [] => .error .endOfString
  | '\\' :: [] => .error .endOfString
  | '\\' :: 'u' :: text => do
    let (low, rest) ← readHex text
    if 0xDC00 ≤ low ∧ low ≤ 0xDFFF then
      return (Char.ofNat (0x10000 + (high - 0xD800) * 0x400 + (low - 0xDC00)), rest)
    else .error .loneSurrogate
  | _ => .error .unexpectedEndOfHexEscape

/-- Reads an escape from behind its backslash. -/
def readEscape : Reader Char
  | [] => .error .endOfString
  | 'u' :: text => do
    let (code, rest) ← readHex text
    if 0xDC00 ≤ code ∧ code ≤ 0xDFFF then .error .loneSurrogate
    else if 0xD800 ≤ code ∧ code ≤ 0xDBFF then readLowSurrogate code rest
    else return (Char.ofNat code, rest)
  | c :: text =>
    match c with
    | '"' => .ok ('"', text)
    | '\\' => .ok ('\\', text)
    | '/' => .ok ('/', text)
    | 'b' => .ok (Char.ofNat 0x08, text)
    | 'f' => .ok (Char.ofNat 0x0C, text)
    | 'n' => .ok ('\n', text)
    | 'r' => .ok ('\r', text)
    | 't' => .ok ('\t', text)
    | _ => .error .invalidEscape

/-- Reads a string from behind its opening quote; `taken` holds its characters so far, last first.
Each round takes a character, so that `fuel` as long as the text is enough. -/
def readStringBody : (fuel : Nat) → (taken : List Char) → Reader String
  | _, _, [] => .error .endOfString
  | 0, _, _ => .error .endOfString
  | fuel + 1, taken, c :: text =>
    if c = '"' then .ok (String.ofList taken.reverse, text)
    else if c = '\\' then
      match readEscape text with
      | .error fault => .error fault
      | .ok (escaped, rest) => readStringBody fuel (escaped :: taken) rest
    else if c.toNat < 0x20 then .error .controlCharacter
    else readStringBody fuel (c :: taken) text

/-- Reads a string from behind its opening quote. -/
def readString : Reader String
  | text => readStringBody text.length [] text

end ArtifactRelease.Json
