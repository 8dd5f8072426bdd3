import ArtifactRelease.Number.Decimal

/-!
# Timestamps

An instant is a number of seconds since the start of 1970 and a number of nanoseconds.  It is
printed in the proleptic Gregorian calendar, cut to milliseconds.  A leap second is the last
second of a minute with a thousand million nanoseconds or more, and is printed as second 60.
-/

namespace ArtifactRelease

open ArtifactRelease.Number

structure Instant where
  seconds : Int
  nanoseconds : Nat
  deriving Repr, DecidableEq

/-- A date of the proleptic Gregorian calendar. -/
structure Date where
  year : Int
  month : Nat
  day : Nat
  deriving Repr, DecidableEq

namespace Date

/-- Days from the first of March of the year zero to the start of 1970. -/
def epochOffset : Int := 719468

/-- Days in 400 years. -/
def daysPerEra : Nat := 146097

/-- The year of an era, counted from March, in which a day of the era lies. -/
def yearOfEra (dayOfEra : Nat) : Nat :=
  (dayOfEra - dayOfEra / 1460 + dayOfEra / 36524 - dayOfEra / 146096) / 365

def firstDayOfYear (yearOfEra : Nat) : Nat :=
  365 * yearOfEra + yearOfEra / 4 - yearOfEra / 100

/-- The date that lies so many days after the first of January 1970.  Years are counted from
March, so that the day that leap years add is their last. -/
def ofDays (days : Int) : Date :=
  let shifted := days + epochOffset
  let era := shifted.fdiv daysPerEra
  let dayOfEra := (shifted.fmod daysPerEra).toNat
  let yearOfEra := yearOfEra dayOfEra
  let dayOfYear := dayOfEra - firstDayOfYear yearOfEra
  let monthFromMarch := (5 * dayOfYear + 2) / 153
  let day := dayOfYear - (153 * monthFromMarch + 2) / 5 + 1
  let month := if monthFromMarch < 10 then monthFromMarch + 3 else monthFromMarch - 9
  let year := yearOfEra + era * 400
  ⟨if month ≤ 2 then year + 1 else year, month, day⟩

end Date

structure CivilTime where
  date : Date
  hour : Nat
  minute : Nat
  second : Nat
  millisecond : Nat
  deriving Repr, DecidableEq

namespace CivilTime

/-- Years of more than four digits, and years before the year zero, carry a sign. -/
def yearText (year : Int) : List Char :=
  if 0 ≤ year ∧ year ≤ 9999 then padded 4 year.toNat
  else (if year < 0 then '-' else '+') :: padded 4 year.natAbs

/-- `year-month-dayThour:minute:second.millisecondZ`. -/
def text (time : CivilTime) : String :=
  String.ofList <|
    yearText time.date.year ++ '-' :: padded 2 time.date.month ++ '-' :: padded 2 time.date.day
      ++ 'T' :: padded 2 time.hour ++ ':' :: padded 2 time.minute ++ ':' :: padded 2 time.second
      ++ '.' :: padded 3 time.millisecond ++ ['Z']

end CivilTime

namespace Instant

def secondsPerDay : Nat := 86400

def secondOfDay (instant : Instant) : Nat :=
  (instant.seconds.fmod secondsPerDay).toNat

def date (instant : Instant) : Date :=
  Date.ofDays (instant.seconds.fdiv secondsPerDay)

def civilTime (instant : Instant) : CivilTime :=
  let second := instant.secondOfDay
  { date := instant.date
    hour := second / 3600
    minute := second / 60 % 60
    second := second % 60 + instant.nanoseconds / 1000000000
    millisecond := instant.nanoseconds % 1000000000 / 1000000 }

/-- Whether there is such an instant: the year is in range, and a second has more than a thousand
million nanoseconds only at the end of a minute. -/
def isRepresentable (instant : Instant) : Bool :=
  (-262143 ≤ instant.date.year && instant.date.year ≤ 262142)
    && (instant.nanoseconds < 1000000000
      || (instant.nanoseconds < 2000000000 && instant.secondOfDay % 60 = 59))

def timestamp (instant : Instant) : String :=
  instant.civilTime.text

end Instant

end ArtifactRelease
