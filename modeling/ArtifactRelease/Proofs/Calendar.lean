import ArtifactRelease.Timestamp
import Mathlib.Algebra.BigOperators.Group.List.Basic
import Mathlib.Order.Monotone.Basic
import Mathlib.Tactic.IntervalCases

/-!
# The Gregorian calendar

Which years are leap years and how long the months are: by these two rules every date lies a number
of days after the first of January 1970.  The conversion of a number of days into a date is right
by the same rules, for all integers: the date exists, and it lies that many days after.  Counting
years from March is only a detour, on which the day that leap years add comes last.
-/

namespace ArtifactRelease.Date

/-! ## The rules -/

/-- Every fourth year is a leap year, but of the centuries only every fourth. -/
def isLeap (year : Int) : Bool :=
  year % 4 = 0 && (year % 100 ≠ 0 || year % 400 = 0)

def yearLength (year : Int) : Nat :=
  if isLeap year then 366 else 365

def monthLength (year : Int) (month : Nat) : Nat :=
  if month = 2 then if isLeap year then 29 else 28
  else if month ∈ [4, 6, 9, 11] then 30
  else 31

def daysBeforeYear (year : Int) : Int :=
  let after := (List.range (year - 1970).toNat).map fun (passed : Nat) =>
    (yearLength (1970 + passed) : Int)
  let before := (List.range (1970 - year).toNat).map fun (missing : Nat) =>
    (yearLength (1969 - missing) : Int)
  after.sum - before.sum

def daysBeforeMonth (year : Int) (month : Nat) : Nat :=
  ((List.range' 1 (month - 1)).map (monthLength year)).sum

/-- Days from the first of January 1970 to a date. -/
def toDays (date : Date) : Int :=
  daysBeforeYear date.year + daysBeforeMonth date.year date.month + date.day - 1

structure Valid (date : Date) : Prop where
  month_pos : 1 ≤ date.month
  month_le : date.month ≤ 12
  day_pos : 1 ≤ date.day
  day_le : date.day ≤ monthLength date.year date.month

theorem monthLength_le (year : Int) (month : Nat) : monthLength year month ≤ 31 := by
  rw [monthLength]
  split_ifs <;> decide

/-! ## Years that start in March -/

/-- Days from the first of March of the year zero to the first of March of a year. -/
def daysToMarch (year : Int) : Int :=
  365 * year + year / 4 - year / 100 + year / 400

theorem yearLength_eq (year : Int) :
    (yearLength year : Int) = if isLeap year then 366 else 365 := by
  rw [yearLength]
  split <;> rfl

/-- The day that a leap year adds lies before its March. -/
theorem daysToMarch_succ (year : Int) :
    daysToMarch (year + 1) = daysToMarch year + yearLength (year + 1) := by
  rw [yearLength_eq]
  simp only [daysToMarch, isLeap, Bool.and_eq_true, Bool.or_eq_true, decide_eq_true_eq]
  split <;> omega

/-- The calendar repeats itself after 400 years. -/
theorem daysToMarch_add_eras (year era : Int) :
    daysToMarch (year + era * 400) = daysToMarch year + era * daysPerEra := by
  simp only [daysToMarch, daysPerEra]
  omega

theorem sum_yearLength_after (count : Nat) :
    ((List.range count).map fun (passed : Nat) => (yearLength (1970 + passed) : Int)).sum =
      daysToMarch (1969 + count) - daysToMarch 1969 := by
  induction count with
  | zero => simp
  | succ count ih =>
      have hnext := daysToMarch_succ (1969 + count)
      rw [show (1969 : Int) + count + 1 = 1970 + count by omega] at hnext
      rw [List.range_succ, List.map_append, List.sum_append, ih, List.map_singleton,
        List.sum_singleton, show (1969 : Int) + (count + 1 : Nat) = 1970 + count by omega, hnext]
      omega

theorem sum_yearLength_before (count : Nat) :
    ((List.range count).map fun (missing : Nat) => (yearLength (1969 - missing) : Int)).sum =
      daysToMarch 1969 - daysToMarch (1969 - count) := by
  induction count with
  | zero => simp
  | succ count ih =>
      have hnext := daysToMarch_succ (1969 - (count + 1 : Nat))
      rw [show (1969 : Int) - (count + 1 : Nat) + 1 = 1969 - count by omega] at hnext
      rw [List.range_succ, List.map_append, List.sum_append, ih, List.map_singleton,
        List.sum_singleton, hnext]
      omega

/-- From the first of March to the end of the year there are 306 days. -/
theorem daysBeforeYear_eq (year : Int) :
    daysBeforeYear year = daysToMarch (year - 1) + 306 - epochOffset := by
  have hepoch : daysToMarch 1969 + 306 = epochOffset := by decide
  rw [daysBeforeYear, sum_yearLength_after, sum_yearLength_before]
  rcases Int.le_total 1970 year with hafter | hbefore
  · rw [show (1969 : Int) + (year - 1970).toNat = year - 1 by omega,
      show (1969 : Int) - (1970 - year).toNat = 1969 by omega]
    omega
  · rw [show (1969 : Int) + (year - 1970).toNat = 1969 by omega,
      show (1969 : Int) - (1970 - year).toNat = year - 1 by omega]
    omega

theorem daysBeforeYear_succ (year : Int) :
    daysBeforeYear (year + 1) = daysBeforeYear year + yearLength year := by
  have hnext := daysToMarch_succ (year - 1)
  rw [Int.sub_add_cancel] at hnext
  rw [daysBeforeYear_eq, daysBeforeYear_eq, Int.add_sub_cancel, hnext]
  omega

/-! ## Months that are counted from March -/

/-- Days of a year that starts in March before one of its months. -/
def firstDayOfMonth (monthFromMarch : Nat) : Nat :=
  (153 * monthFromMarch + 2) / 5

/-- The date with a year and a month that are counted from March. -/
def fromMarch (year : Int) (monthFromMarch : Nat) (day : Nat) : Date :=
  let month := if monthFromMarch < 10 then monthFromMarch + 3 else monthFromMarch - 9
  ⟨if month ≤ 2 then year + 1 else year, month, day⟩

theorem daysBeforeMonth_eq (year : Int) {month : Nat} (hpos : 1 ≤ month) (hle : month ≤ 12) :
    daysBeforeMonth year month =
      if month = 1 then 0
      else if month = 2 then 31
      else yearLength year - 306 + firstDayOfMonth (month - 3) := by
  rw [daysBeforeMonth, yearLength]
  cases hleap : isLeap year <;> interval_cases month <;>
    simp [List.range', monthLength, hleap, firstDayOfMonth]

theorem toDays_fromMarch (year : Int) {monthFromMarch : Nat} (hmonth : monthFromMarch < 12)
    (day : Nat) :
    (fromMarch year monthFromMarch day).toDays =
      daysToMarch year + firstDayOfMonth monthFromMarch + day - 1 - epochOffset := by
  by_cases hlate : monthFromMarch < 10
  · have hbefore := daysBeforeMonth_eq year (show 1 ≤ monthFromMarch + 3 by omega) (by omega)
    have hlength := daysToMarch_succ (year - 1)
    have hyear : 306 ≤ yearLength year := by
      rw [yearLength]
      split <;> decide
    rw [Int.sub_add_cancel] at hlength
    rw [if_neg (by omega), if_neg (by omega), Nat.add_sub_cancel] at hbefore
    simp only [fromMarch, toDays, if_pos hlate, if_neg (show ¬monthFromMarch + 3 ≤ 2 by omega),
      hbefore, daysBeforeYear_eq]
    omega
  · -- January and February are the last two months of the year before
    have hcases : monthFromMarch = 10 ∨ monthFromMarch = 11 := by omega
    rcases hcases with rfl | rfl
    · have hjanuary : daysBeforeMonth (year + 1) 1 = 0 := rfl
      simp [fromMarch, toDays, hjanuary, daysBeforeYear_eq, firstDayOfMonth]
      omega
    · have hfebruary : daysBeforeMonth (year + 1) 2 = 31 := rfl
      simp [fromMarch, toDays, hfebruary, daysBeforeYear_eq, firstDayOfMonth]
      omega

/-- A month is as long as it takes up to the next; the last goes up to the end of the year. -/
theorem monthLength_fromMarch (year : Int) {monthFromMarch : Nat} (hmonth : monthFromMarch < 12)
    (day : Nat) :
    firstDayOfMonth monthFromMarch +
        monthLength (fromMarch year monthFromMarch day).year
          (fromMarch year monthFromMarch day).month =
      if monthFromMarch = 11 then yearLength (year + 1)
      else firstDayOfMonth (monthFromMarch + 1) := by
  rw [yearLength]
  cases hleap : isLeap (year + 1) <;> interval_cases monthFromMarch <;>
    simp [fromMarch, monthLength, firstDayOfMonth, hleap]

def monthOfDay (dayOfYear : Nat) : Nat :=
  (5 * dayOfYear + 2) / 153

theorem monthOfDay_spec {dayOfYear : Nat} (hday : dayOfYear < 366) :
    monthOfDay dayOfYear < 12 ∧ firstDayOfMonth (monthOfDay dayOfYear) ≤ dayOfYear ∧
      dayOfYear < firstDayOfMonth (monthOfDay dayOfYear + 1) := by
  simp only [monthOfDay, firstDayOfMonth]
  omega

def ofDayOfYear (year : Int) (dayOfYear : Nat) : Date :=
  fromMarch year (monthOfDay dayOfYear) (dayOfYear - firstDayOfMonth (monthOfDay dayOfYear) + 1)

theorem yearLength_le (year : Int) : yearLength year ≤ 366 := by
  rw [yearLength]
  split <;> decide

theorem valid_ofDayOfYear {year : Int} {dayOfYear : Nat}
    (hday : dayOfYear < yearLength (year + 1)) : (ofDayOfYear year dayOfYear).Valid := by
  obtain ⟨hmonth, hfirst, hnext⟩ :=
    monthOfDay_spec (Nat.lt_of_lt_of_le hday (yearLength_le (year + 1)))
  have hlength := monthLength_fromMarch year hmonth
    (dayOfYear - firstDayOfMonth (monthOfDay dayOfYear) + 1)
  have hbound : dayOfYear < firstDayOfMonth (monthOfDay dayOfYear) +
      monthLength (ofDayOfYear year dayOfYear).year (ofDayOfYear year dayOfYear).month := by
    rw [ofDayOfYear, hlength]
    split
    · exact hday
    · exact hnext
  constructor
  · simp only [ofDayOfYear, fromMarch]
    split <;> omega
  · simp only [ofDayOfYear, fromMarch]
    split <;> omega
  · exact Nat.succ_pos _
  · change dayOfYear - firstDayOfMonth (monthOfDay dayOfYear) + 1 ≤ _
    omega

theorem toDays_ofDayOfYear (year : Int) {dayOfYear : Nat} (hday : dayOfYear < 366) :
    (ofDayOfYear year dayOfYear).toDays = daysToMarch year + dayOfYear - epochOffset := by
  obtain ⟨hmonth, hfirst, -⟩ := monthOfDay_spec hday
  rw [ofDayOfYear, toDays_fromMarch year hmonth]
  omega

/-! ## Years of an era -/

theorem yearOfEra_mono : Monotone yearOfEra := by
  apply monotone_nat_of_le_succ
  intro day
  simp only [yearOfEra]
  apply Nat.div_le_div_right
  omega

/-- The first day of a year lies in it, and the day before does not. -/
theorem yearOfEra_firstDayOfYear : ∀ year < 400,
    yearOfEra (firstDayOfYear year) = year ∧ yearOfEra (firstDayOfYear year - 1) = year - 1 := by
  decide +kernel

/-- Years only grow, so that the first days of all years settle those of the days between. -/
theorem le_yearOfEra_iff {year day : Nat} (hyear : year < 400) :
    year ≤ yearOfEra day ↔ firstDayOfYear year ≤ day := by
  obtain ⟨hfirst, hbefore⟩ := yearOfEra_firstDayOfYear year hyear
  constructor
  · intro hle
    by_contra hearly
    have hpositive : year ≠ 0 := by
      rintro rfl
      exact hearly (Nat.zero_le day)
    have hmono := yearOfEra_mono (Nat.le_sub_one_of_lt (Nat.lt_of_not_le hearly))
    omega
  · intro hle
    have hmono := yearOfEra_mono hle
    rwa [hfirst] at hmono

theorem yearOfEra_lt {day : Nat} (hday : day < daysPerEra) : yearOfEra day < 400 := by
  have hlast : yearOfEra 146096 = 399 := by decide
  have hmono := yearOfEra_mono (Nat.le_of_lt_succ hday)
  omega

theorem daysToMarch_ofNat {year : Nat} (hyear : year < 400) :
    daysToMarch year = firstDayOfYear year := by
  simp only [daysToMarch, firstDayOfYear]
  omega

/-- What is left of an era after the years that are over is a day of the year under way. -/
theorem dayOfEra_bounds {day : Nat} (hday : day < daysPerEra) :
    firstDayOfYear (yearOfEra day) ≤ day ∧
      (day : Int) < daysToMarch (yearOfEra day + 1) := by
  have hyear := yearOfEra_lt hday
  refine ⟨(le_yearOfEra_iff hyear).1 (Nat.le_refl _), ?_⟩
  rcases Nat.lt_or_ge (yearOfEra day + 1) 400 with hnext | hlast
  · have hend := (le_yearOfEra_iff hnext).not.1 (Nat.not_succ_le_self _)
    have hstart := daysToMarch_ofNat hnext
    rw [Nat.cast_succ] at hstart
    omega
  · -- the end of the last year is the end of the era
    have hera : daysToMarch 400 = daysPerEra := by decide
    rw [show (yearOfEra day : Int) + 1 = 400 by omega, hera]
    exact Int.ofNat_lt.2 hday

/-! ## Dates of day counts -/

/-- A day count is a day of an era, and so of one of its years. -/
theorem exists_dayOfEra (days : Int) :
    ∃ (era : Int) (day : Nat), day < daysPerEra ∧ era * daysPerEra + day = days + epochOffset ∧
      ofDays days =
        ofDayOfYear (yearOfEra day + era * 400) (day - firstDayOfYear (yearOfEra day)) := by
  have hpositive : (0 : Int) < daysPerEra := by decide
  have hdivision := Int.fdiv_mul_add_fmod (days + epochOffset) daysPerEra
  have hlt := Int.fmod_lt_of_pos (days + epochOffset) hpositive
  obtain ⟨day, hday⟩ := Int.eq_ofNat_of_zero_le
    (Int.fmod_nonneg_of_pos (days + epochOffset) hpositive)
  rw [hday] at hdivision hlt
  refine ⟨(days + epochOffset).fdiv daysPerEra, day, Int.ofNat_lt.1 hlt, hdivision, ?_⟩
  simp only [ofDays, hday, Int.toNat_natCast]
  rfl

/-- A day count is a day of a year that starts in March. -/
theorem exists_ofDayOfYear (days : Int) :
    ∃ year dayOfYear, ofDays days = ofDayOfYear year dayOfYear ∧
      dayOfYear < yearLength (year + 1) ∧ daysToMarch year + dayOfYear = days + epochOffset := by
  obtain ⟨era, day, hday, hcount, hdate⟩ := exists_dayOfEra days
  obtain ⟨hfirst, hend⟩ := dayOfEra_bounds hday
  have hstart := daysToMarch_ofNat (yearOfEra_lt hday)
  have hlength := daysToMarch_succ (yearOfEra day + era * 400)
  have hera := daysToMarch_add_eras (yearOfEra day) era
  have hnext := daysToMarch_add_eras (yearOfEra day + 1) era
  rw [Int.add_right_comm] at hnext
  refine ⟨_, _, hdate, ?_, ?_⟩
  · omega
  · omega

theorem valid_ofDays (days : Int) : (ofDays days).Valid := by
  obtain ⟨year, dayOfYear, hdate, hday, -⟩ := exists_ofDayOfYear days
  rw [hdate]
  exact valid_ofDayOfYear hday

/-- The date that lies so many days after the first of January 1970 does. -/
theorem toDays_ofDays (days : Int) : (ofDays days).toDays = days := by
  obtain ⟨year, dayOfYear, hdate, hday, hcount⟩ := exists_ofDayOfYear days
  rw [hdate, toDays_ofDayOfYear year (Nat.lt_of_lt_of_le hday (yearLength_le _)), hcount,
    Int.add_sub_cancel]

/-! ## Dates in order -/

theorem daysBeforeYear_add_le {year later : Int} (hlater : year < later) :
    daysBeforeYear year + yearLength year ≤ daysBeforeYear later := by
  induction later, hlater using Int.leInduction with
  | base => rw [daysBeforeYear_succ]
  | succ later hlater ih =>
      have hnext := daysBeforeYear_succ later
      omega

theorem daysBeforeMonth_succ (year : Int) {month : Nat} (hmonth : 1 ≤ month) :
    daysBeforeMonth year (month + 1) = daysBeforeMonth year month + monthLength year month := by
  obtain ⟨passed, rfl⟩ := Nat.exists_eq_add_of_le' hmonth
  simp only [daysBeforeMonth, Nat.add_sub_cancel]
  rw [List.range'_concat, List.map_append, List.sum_append, List.map_singleton,
    List.sum_singleton, Nat.one_mul, Nat.add_comm 1]

theorem daysBeforeMonth_add_le (year : Int) {month later : Nat} (hmonth : 1 ≤ month)
    (hlater : month < later) :
    daysBeforeMonth year month + monthLength year month ≤ daysBeforeMonth year later := by
  induction later, hlater using Nat.le_induction with
  | base => rw [daysBeforeMonth_succ year hmonth]
  | succ later hlater ih =>
      have hnext := daysBeforeMonth_succ year (show 1 ≤ later by omega)
      omega

/-- The twelve months are the year. -/
theorem daysBeforeMonth_thirteen (year : Int) : daysBeforeMonth year 13 = yearLength year := by
  rw [daysBeforeMonth_succ year (by decide), daysBeforeMonth_eq year (by decide) (by decide),
    yearLength]
  cases isLeap year <;> rfl

/-- An earlier year, in the same year an earlier month, in the same month an earlier day. -/
def Before (first second : Date) : Prop :=
  first.year < second.year ∨ first.year = second.year ∧
    (first.month < second.month ∨ first.month = second.month ∧ first.day < second.day)

theorem Valid.dayOfYear_bounds {date : Date} (hdate : date.Valid) :
    daysBeforeMonth date.year date.month + date.day ≤ yearLength date.year := by
  have hrest := daysBeforeMonth_add_le date.year hdate.month_pos
    (Nat.lt_succ_of_le hdate.month_le)
  rw [daysBeforeMonth_thirteen] at hrest
  have hday := hdate.day_le
  omega

theorem Before.toDays_lt {first second : Date} (hbefore : first.Before second)
    (hfirst : first.Valid) (hsecond : second.Valid) : first.toDays < second.toDays := by
  simp only [toDays]
  have hpos := hsecond.day_pos
  rcases hbefore with hyear | ⟨hyear, hmonth | ⟨hmonth, hday⟩⟩
  · have hyears := daysBeforeYear_add_le hyear
    have hbound := hfirst.dayOfYear_bounds
    omega
  · have hmonths := daysBeforeMonth_add_le first.year hfirst.month_pos hmonth
    have hbound := hfirst.day_le
    rw [hyear] at hmonths hbound ⊢
    omega
  · rw [hyear, hmonth]
    omega

end ArtifactRelease.Date
