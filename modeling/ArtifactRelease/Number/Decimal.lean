import ArtifactRelease.Number.Binary64

/-!
# Decimal text of numbers

`shortest` finds the fewest decimal digits that still read back as a given double: the doubles
between the midpoints to its two neighbours all read back, and the first decimal grid with a point
in that interval wins.  `fixed` writes a ratio with a fixed number of places, a half going to the
even digit.
-/

namespace ArtifactRelease.Number

def ofDigits (digits : List Char) : Nat :=
  digits.foldl (fun value digit => value * 10 + (digit.toNat - 0x30)) 0

def isDigit (c : Char) : Bool :=
  '0' ≤ c && c ≤ '9'

def digits (value : Nat) : List Char :=
  Nat.toDigits 10 value

def padded (width : Nat) (value : Nat) : List Char :=
  let shown := digits value
  List.replicate (width - shown.length) '0' ++ shown

/-- A ratio with `places` digits after the point. -/
def fixed (places : Nat) (ratio : Ratio) : List Char :=
  let scaled := roundToEven ⟨ratio.numerator * Nat.pow 10 places, ratio.denominator⟩
  digits (scaled / Nat.pow 10 places) ++ '.' :: padded places (scaled % Nat.pow 10 places)

/-- A decimal `significand · 10 ^ exponent`. -/
structure Decimal where
  significand : Nat
  exponent : Int
  deriving Repr, DecidableEq

/-- The power of ten of the first digit of a positive ratio. -/
def leadingPower (ratio : Ratio) : Int :=
  if ratio.denominator ≤ ratio.numerator then
    (digits (ratio.numerator / ratio.denominator)).length - 1
  else
    let reaches (places : Nat) : Bool := ratio.denominator ≤ ratio.numerator * Nat.pow 10 places
    let places : Nat := ((List.range 400).find? reaches).getD 0
    Int.neg places

/-- The numbers that read back as a double, in quarters of its last place. -/
structure Neighbourhood where
  low : Nat
  middle : Nat
  high : Nat
  closed : Bool

def Binary64.neighbourhood (number : Binary64) : Neighbourhood :=
  let middle := 4 * number.significand
  let narrow := number.significand = Nat.pow 2 52 ∧ -1074 < number.exponent
  ⟨if narrow then middle - 1 else middle - 2, middle, middle + 2, number.significand % 2 = 0⟩

/-- The grid point next to the double among multiples of `10 ^ power`, if one reads back. -/
def Binary64.onGrid? (number : Binary64) (power : Int) : Option Decimal :=
  let around := number.neighbourhood
  let quarter := number.exponent - 2
  -- both sides scaled by the same powers of two and ten, so that the comparison is in integers
  let binary := Nat.pow 2 quarter.toNat
  let binaryBelow := Nat.pow 2 (-quarter).toNat
  let decimal := Nat.pow 10 power.toNat
  let decimalBelow := Nat.pow 10 (-power).toNat
  let low := around.low * binary * decimalBelow
  let middle := around.middle * binary * decimalBelow
  let high := around.high * binary * decimalBelow
  let unit := decimal * binaryBelow
  let floor := middle / unit
  let reads (point : Nat) : Bool :=
    if around.closed then low ≤ point * unit && point * unit ≤ high
    else low < point * unit && point * unit < high
  let belowGap := middle - floor * unit
  let aboveGap := (floor + 1) * unit - middle
  let nearer := if belowGap < aboveGap then floor
    else if aboveGap < belowGap then floor + 1
    else if floor % 2 = 0 then floor else floor + 1
  let farther := if nearer = floor then floor + 1 else floor
  if reads nearer then some ⟨nearer, power⟩
  else if reads farther then some ⟨farther, power⟩
  else none

/-- The fewest digits that read back as the double. -/
def Binary64.shortest (number : Binary64) : Decimal :=
  if number.isZero then ⟨0, 0⟩
  else
    let leading := leadingPower number.ratio
    let found := (List.range 17).findSome? fun (extra : Nat) =>
      number.onGrid? (leading - extra)
    found.getD ⟨number.significand, 0⟩

/-- A double as data formats write it: positional from `1e-5` up to `1e16`, with at least one digit
after the point; otherwise one digit before the point and a decimal exponent with its sign. -/
def Binary64.text (number : Binary64) : List Char :=
  let sign := if number.negative then ['-'] else []
  let decimal := number.shortest
  if decimal.significand = 0 then sign ++ ['0', '.', '0']
  else
    let trailing := ((digits decimal.significand).reverse.takeWhile (· = '0')).length
    let shown := (digits decimal.significand).take ((digits decimal.significand).length - trailing)
    let exponent := decimal.exponent + trailing
    let point : Int := shown.length + exponent
    sign ++
      if 0 ≤ exponent ∧ point ≤ 16 then
        shown ++ List.replicate exponent.toNat '0' ++ ['.', '0']
      else if 0 < point ∧ point ≤ 16 then
        shown.take point.toNat ++ '.' :: shown.drop point.toNat
      else if -5 < point ∧ point ≤ 0 then
        ['0', '.'] ++ List.replicate (-point).toNat '0' ++ shown
      else
        let tail := if shown.length = 1 then [] else '.' :: shown.drop 1
        let power := point - 1
        let mark := if power < 0 then ['e', '-'] else ['e', '+']
        shown.take 1 ++ tail ++ mark ++ digits power.natAbs

end ArtifactRelease.Number
