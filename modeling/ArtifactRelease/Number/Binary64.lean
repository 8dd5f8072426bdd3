/-!
# Double precision numbers

A finite double is a sign and `significand · 2 ^ exponent`.  Arithmetic is exact on ratios of
natural numbers and ends in one rounding to 53 bits, to nearest with ties to even, so that each
operation gives what the hardware gives.  A magnitude too large for a double is `none`.
-/

namespace ArtifactRelease.Number

/-- A finite double. -/
structure Binary64 where
  negative : Bool := false
  significand : Nat
  exponent : Int
  deriving Repr, DecidableEq, BEq

/-- A non-negative ratio. -/
structure Ratio where
  numerator : Nat
  denominator : Nat
  deriving Repr, DecidableEq

/-- The quotient rounded to the nearest integer, a half going to the even neighbour. -/
def roundToEven (ratio : Ratio) : Nat :=
  let floor := ratio.numerator / ratio.denominator
  let remainder := ratio.numerator % ratio.denominator
  if 2 * remainder < ratio.denominator then floor
  else if 2 * remainder > ratio.denominator then floor + 1
  else if floor % 2 = 0 then floor else floor + 1

def Ratio.scaleDown (ratio : Ratio) (exponent : Int) : Ratio :=
  if 0 ≤ exponent then ⟨ratio.numerator, ratio.denominator * Nat.pow 2 exponent.toNat⟩
  else ⟨ratio.numerator * Nat.pow 2 (-exponent).toNat, ratio.denominator⟩

namespace Binary64

def zero : Binary64 := ⟨false, 0, 0⟩

/-- The exponent of the last place of the doubles around a positive ratio: 53 bits of precision,
down to the smallest exponent there is. -/
def lastPlace (ratio : Ratio) : Int :=
  let estimate : Int := (ratio.numerator.log2 : Int) - (ratio.denominator.log2 : Int) - 53
  let quotient := (ratio.scaleDown estimate).numerator / (ratio.scaleDown estimate).denominator
  max (if Nat.pow 2 53 ≤ quotient then estimate + 1 else estimate) (-1074)

/-- The double nearest to a ratio, unless it is too large. -/
def ofRatio? (ratio : Ratio) : Option Binary64 :=
  if ratio.numerator = 0 then some zero
  else
    let place := lastPlace ratio
    let rounded := roundToEven (ratio.scaleDown place)
    let number : Binary64 :=
      if rounded = Nat.pow 2 53 then ⟨false, Nat.pow 2 52, place + 1⟩ else ⟨false, rounded, place⟩
    if number.exponent > 971 then none else some number

/-- The magnitude as a ratio. -/
def ratio (number : Binary64) : Ratio :=
  if 0 ≤ number.exponent then ⟨number.significand * Nat.pow 2 number.exponent.toNat, 1⟩
  else ⟨number.significand, Nat.pow 2 (-number.exponent).toNat⟩

def ofNat? (value : Nat) : Option Binary64 :=
  ofRatio? ⟨value, 1⟩

/-- Product of magnitudes. -/
def mul? (left right : Binary64) : Option Binary64 :=
  ofRatio? ⟨left.ratio.numerator * right.ratio.numerator,
    left.ratio.denominator * right.ratio.denominator⟩

/-- Quotient of magnitudes; the divisor is not zero. -/
def div? (left right : Binary64) : Option Binary64 :=
  ofRatio? ⟨left.ratio.numerator * right.ratio.denominator,
    left.ratio.denominator * right.ratio.numerator⟩

/-- Sum of magnitudes. -/
def add? (left right : Binary64) : Option Binary64 :=
  ofRatio? ⟨left.ratio.numerator * right.ratio.denominator
      + right.ratio.numerator * left.ratio.denominator,
    left.ratio.denominator * right.ratio.denominator⟩

def isZero (number : Binary64) : Bool :=
  number.significand == 0

/-- The double nearest to a power of ten. -/
def powerOfTen? (exponent : Nat) : Option Binary64 :=
  ofRatio? ⟨Nat.pow 10 exponent, 1⟩

end Binary64

end ArtifactRelease.Number
