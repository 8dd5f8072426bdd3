import ArtifactRelease.Number.Decimal
import ArtifactRelease.Shell.Arithmetic

/-!
# Numbers with a point

Doubles as scripts read and write them: in decimal or hexadecimal digits, with an exponent, or as
the names of the infinite numbers and of what is no number.
-/

namespace ArtifactRelease.Shell

open ArtifactRelease.Number

inductive Floating where
  | finite (negative : Bool) (magnitude : Ratio)
  | infinite (negative : Bool)
  | notANumber (negative : Bool)
  deriving Repr, DecidableEq

namespace Floating

def zero : Floating := .finite false ⟨0, 1⟩

def isSpace (c : Char) : Bool :=
  c = ' ' || (9 ≤ c.toNat && c.toNat ≤ 13)

def readSign (text : List Char) : Bool × List Char :=
  match text.dropWhile isSpace with
  | '-' :: rest => (true, rest)
  | '+' :: rest => (false, rest)
  | rest => (false, rest)

/-- Passes an exponent behind one of the marks for it, if digits follow. -/
def readExponent (mark : Char) (text : List Char) : Int × List Char :=
  match text with
  | c :: later =>
    let (down, digits) := match later with
      | '-' :: digits => (true, digits)
      | '+' :: digits => (false, digits)
      | digits => (false, digits)
    if c.toLower = mark && digits.head?.any Char.isDigit then
      let count : Int := ofDigits (digits.takeWhile Char.isDigit)
      (if down then -count else count, digits.dropWhile Char.isDigit)
    else (0, text)
  | [] => (0, [])

/-- Digits with a point among them: those before and behind it. -/
def readPlaces (isDigit : Char → Bool) (text : List Char) : List Char × List Char × List Char :=
  let whole := text.takeWhile isDigit
  match text.dropWhile isDigit with
  | '.' :: later => (whole, later.takeWhile isDigit, later.dropWhile isDigit)
  | rest => (whole, [], rest)

/-- The exponents that matter; beyond them a double is zero or infinite. -/
def bounded (exponent : Int) (limit : Nat) : Int :=
  max (-(limit : Int)) (min limit exponent)

def scaled (base : Nat) (significand : Nat) (power : Int) : Ratio :=
  if 0 ≤ power then ⟨significand * Nat.pow base power.toNat, 1⟩
  else ⟨significand, Nat.pow base (-power).toNat⟩

/-- A magnitude in decimal digits, and what follows it. -/
def readDecimal? (text : List Char) : Option (Ratio × List Char) :=
  let (whole, places, rest) := readPlaces Char.isDigit text
  if whole.isEmpty && places.isEmpty then none
  else
    let (power, rest) := readExponent 'e' rest
    let limit := 400 + whole.length + places.length
    some (scaled 10 (ofDigits (whole ++ places)) (bounded (power - places.length) limit), rest)

/-- A magnitude in hexadecimal digits, and what follows it. -/
def readHexadecimal? (text : List Char) : Option (Ratio × List Char) :=
  match text with
  | '0' :: x :: digits =>
    let isDigit (c : Char) : Bool := (Arithmetic.hexDigit? c).isSome
    let (whole, places, rest) := readPlaces isDigit digits
    if x.toLower ≠ 'x' || (whole.isEmpty && places.isEmpty) then none
    else
      let (power, rest) := readExponent 'p' rest
      let limit := 1200 + 4 * (whole.length + places.length)
      let value := Arithmetic.valueIn 16 (whole ++ places)
      some (scaled 2 value (bounded (power - 4 * places.length) limit), rest)
  | _ => none

/-- What follows a name, in either case. -/
def afterName? (name : String) (text : List Char) : Option (List Char) :=
  if (text.take name.length).map Char.toLower = name.toList then some (text.drop name.length)
  else none

def afterNote (text : List Char) : List Char :=
  match text with
  | '(' :: rest =>
    match rest.dropWhile fun c => c.isAlphanum || c = '_' with
    | ')' :: later => later
    | _ => text
  | _ => text

/-- A magnitude as it is after rounding to a double, and whether it lies outside of the range in
which doubles have their full precision. -/
def rounded (negative : Bool) (magnitude : Ratio) : Floating × Bool :=
  match Binary64.ofRatio? magnitude with
  | none => (.infinite negative, true)
  | some double =>
    let exact : Bool := double.ratio.numerator * magnitude.denominator
      = magnitude.numerator * double.ratio.denominator
    let tiny : Bool := double.significand < Nat.pow 2 52 && !exact
    (.finite negative double.ratio, tiny)

/-- A number at the start of a text, what follows it, and whether it is out of range. -/
def read? (text : List Char) : Option (Floating × List Char × Bool) :=
  let (negative, text) := readSign text
  match readHexadecimal? text <|> readDecimal? text with
  | some (magnitude, rest) =>
    let (value, outOfRange) := rounded negative magnitude
    some (value, rest, outOfRange)
  | none =>
    match afterName? "infinity" text <|> afterName? "inf" text with
    | some rest => some (.infinite negative, rest, false)
    | none =>
      (afterName? "nan" text).map fun rest => (.notANumber negative, afterNote rest, false)

/-! ## Writing -/

/-- A positive ratio to `digits` significant digits, and the power of ten of the first one. -/
def significant (digits : Nat) (ratio : Ratio) : List Char × Int :=
  if ratio.numerator = 0 then (List.replicate digits '0', 0)
  else
    let power := leadingPower ratio
    let scale : Int := (digits : Int) - 1 - power
    let rounded (scale : Int) : Nat :=
      if 0 ≤ scale then roundToEven ⟨ratio.numerator * Nat.pow 10 scale.toNat, ratio.denominator⟩
      else roundToEven ⟨ratio.numerator, ratio.denominator * Nat.pow 10 (-scale).toNat⟩
    let shown := Number.digits (rounded scale)
    if shown.length ≤ digits then (shown, power)
    else (Number.digits (rounded (scale - 1)), power + 1)

/-- Digits behind a point, which is left out without digits unless it is wanted. -/
def behindPoint (pointed : Bool) (places : List Char) : List Char :=
  if places.isEmpty && !pointed then [] else '.' :: places

/-- A number with one digit in front of the point and an exponent of at least two digits. -/
def scientific (pointed : Bool) (digits : List Char) (power : Int) : List Char :=
  digits.take 1 ++ behindPoint pointed (digits.drop 1)
    ++ ['e', if power < 0 then '-' else '+'] ++ padded 2 power.natAbs

def withoutTrailingZeros (digits : List Char) : List Char :=
  (digits.reverse.dropWhile (· = '0')).reverse

/-- The shorter of the two forms; zeros at the end are dropped unless `pointed`. -/
def general (pointed : Bool) (count : Nat) (ratio : Ratio) : List Char :=
  let (digits, power) := significant count ratio
  let trimmed (places : List Char) : List Char :=
    if pointed then places else withoutTrailingZeros places
  if power < -4 || (count : Int) ≤ power then
    scientific pointed (digits.take 1 ++ trimmed (digits.drop 1)) power
  else if power < 0 then
    '0' :: behindPoint pointed (trimmed (List.replicate (-power - 1).toNat '0' ++ digits))
  else
    digits.take (power.toNat + 1)
      ++ behindPoint pointed (trimmed (digits.drop (power.toNat + 1)))

/-- A double in hexadecimal digits with a power of two: one digit in front of the point. -/
def hexadecimal (pointed : Bool) (precision : Option Nat) (ratio : Ratio) : List Char :=
  let double := (Binary64.ofRatio? ratio).getD Binary64.zero
  let significand := double.significand
  -- all digits of the significand stand behind the point but the first bit
  let shift := if significand = 0 then 0 else 52 - min 52 significand.log2
  let subnormal : Bool := significand ≠ 0 && double.exponent = -1074 && 0 < shift
  let significand := if subnormal then significand else significand * Nat.pow 2 shift
  let power : Int := if significand = 0 then 0
    else if subnormal then -1022 else double.exponent - shift + 52
  let places := precision.getD 13
  let kept := if places < 13 then roundToEven ⟨significand, Nat.pow 16 (13 - places)⟩
    else significand * Nat.pow 16 (places - 13)
  let digits := Nat.toDigits 16 (kept % Nat.pow 16 places)
  let digits := if places = 0 then []
    else List.replicate (places - digits.length) '0' ++ digits
  let digits := if precision.isSome then digits else withoutTrailingZeros digits
  ['0', 'x'] ++ Nat.toDigits 16 (kept / Nat.pow 16 places) ++ behindPoint pointed digits
    ++ ['p', if power < 0 then '-' else '+'] ++ Number.digits power.natAbs

/-- The text of a magnitude under one of the letters for numbers with a point. -/
def magnitudeText (letter : Char) (pointed : Bool) (precision : Option Nat) (ratio : Ratio) :
    List Char :=
  let places := precision.getD 6
  match letter with
  | 'f' =>
    if places = 0 then Number.digits (roundToEven ratio) ++ behindPoint pointed []
    else fixed places ratio
  | 'e' =>
    let (digits, power) := significant (places + 1) ratio
    scientific pointed digits power
  | 'a' => hexadecimal pointed precision ratio
  | _ => general pointed (max 1 places) ratio

def isNegative : Floating → Bool
  | finite negative _ | infinite negative | notANumber negative => negative

def isFinite : Floating → Bool
  | finite _ _ => true
  | _ => false

/-- The text of a number without its sign. -/
def text (letter : Char) (pointed : Bool) (precision : Option Nat) : Floating → List Char
  | finite _ magnitude => magnitudeText letter pointed precision magnitude
  | infinite _ => "inf".toList
  | notANumber _ => "nan".toList

end Floating

end ArtifactRelease.Shell
