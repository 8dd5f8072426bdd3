import ArtifactRelease.Proofs.Calendar
import ArtifactRelease.Proofs.Digits
import Mathlib.Data.List.Forall2

/-!
# Reading timestamps back

A timestamp is read field by field, and the fields are a time in the calendar.  By the rules of the
calendar that time is the second of the instant, and its milliseconds are those of the instant; the
second 60 belongs to the second before it, as that is how a leap second is kept.
-/

namespace ArtifactRelease

open ArtifactRelease.Number

namespace CivilTime

/-! ## What a time stands for -/

/-- The second since the start of 1970.  Second 60 is the leap second, which goes on from second
59. -/
def toSeconds (time : CivilTime) : Int :=
  time.date.toDays * 86400 + time.hour * 3600 + time.minute * 60
    + if time.second = 60 then 59 else time.second

def toMilliseconds (time : CivilTime) : Nat :=
  if time.second = 60 then 1000 + time.millisecond else time.millisecond

structure Valid (time : CivilTime) : Prop where
  date : time.date.Valid
  hour : time.hour < 24
  minute : time.minute < 60
  second : time.second ≤ 60
  millisecond : time.millisecond < 1000

/-! ## The reader -/

def readNumber (width : Nat) (text : List Char) : Option (Nat × List Char) :=
  let shown := text.take width
  if shown.length = width ∧ shown.all isDigit then some (ofDigits shown, text.drop width) else none

def readField (mark : Char) (width : Nat) : List Char → Option (Nat × List Char)
  | [] => none
  | c :: rest => if c = mark then readNumber width rest else none

/-- Reads a year: four digits, or a sign and at least four. -/
def readYear : List Char → Option (Int × List Char)
  | [] => none
  | c :: rest =>
    if c = '+' ∨ c = '-' then
      let value := ofDigits (rest.takeWhile isDigit)
      if 4 ≤ (rest.takeWhile isDigit).length then
        some (if c = '-' then -value else value, rest.dropWhile isDigit)
      else none
    else (readNumber 4 (c :: rest)).map fun (year, rest) => (year, rest)

def ofText? (text : String) : Option CivilTime := do
  let (year, rest) ← readYear text.toList
  let (month, rest) ← readField '-' 2 rest
  let (day, rest) ← readField '-' 2 rest
  let (hour, rest) ← readField 'T' 2 rest
  let (minute, rest) ← readField ':' 2 rest
  let (second, rest) ← readField ':' 2 rest
  let (millisecond, rest) ← readField '.' 3 rest
  if rest = ['Z'] then some ⟨⟨year, month, day⟩, hour, minute, second, millisecond⟩ else none

theorem readNumber_padded {width value : Nat} (hwidth : 0 < width) (hfits : value < 10 ^ width)
    (rest : List Char) : readNumber width (padded width value ++ rest) = some (value, rest) := by
  have hlength := length_padded hwidth hfits
  have htake : (padded width value ++ rest).take width = padded width value :=
    List.take_left' hlength
  have hdrop : (padded width value ++ rest).drop width = rest := List.drop_left' hlength
  have hdigits : (padded width value).all isDigit :=
    List.all_eq_true.2 fun c hc => isDigit_of_mem_padded hc
  simp [readNumber, htake, hdrop, hlength, hdigits, ofDigits_padded]

theorem readField_padded (mark : Char) {width value : Nat} (hwidth : 0 < width)
    (hfits : value < 10 ^ width) (rest : List Char) :
    readField mark width (mark :: (padded width value ++ rest)) = some (value, rest) := by
  rw [readField, if_pos rfl, readNumber_padded hwidth hfits]

theorem readYear_signed {sign : Char} (hsign : sign = '+' ∨ sign = '-') (value : Nat) {mark : Char}
    (hmark : isDigit mark = false) (rest : List Char) :
    readYear (sign :: (padded 4 value ++ mark :: rest)) =
      some (if sign = '-' then -(value : Int) else value, mark :: rest) := by
  have hdigits : ∀ c ∈ padded 4 value, isDigit c := fun c hc => isDigit_of_mem_padded hc
  have htake : (padded 4 value ++ mark :: rest).takeWhile isDigit = padded 4 value := by
    rw [List.takeWhile_append_of_pos hdigits, List.takeWhile_cons_of_neg (by simp [hmark]),
      List.append_nil]
  have hdrop : (padded 4 value ++ mark :: rest).dropWhile isDigit = mark :: rest := by
    rw [List.dropWhile_append_of_pos hdigits, List.dropWhile_cons_of_neg (by simp [hmark])]
  rw [readYear, if_pos hsign, htake, hdrop, ofDigits_padded]
  exact if_pos (le_length_padded 4 value)

/-- A year is read up to the mark behind it. -/
theorem readYear_yearText (year : Int) {mark : Char} (hmark : isDigit mark = false)
    (rest : List Char) :
    readYear (yearText year ++ mark :: rest) = some (year, mark :: rest) := by
  rw [yearText]
  by_cases hplain : 0 ≤ year ∧ year ≤ 9999
  · have hread := readNumber_padded (show 0 < 4 by decide)
      (show year.toNat < 10 ^ 4 by omega) (mark :: rest)
    obtain ⟨c, shown, hshown⟩ := List.exists_cons_of_ne_nil
      (List.ne_nil_of_length_pos (Nat.zero_lt_of_lt (le_length_padded 4 year.toNat)))
    have hc : isDigit c := isDigit_of_mem_padded (hshown ▸ List.mem_cons_self)
    have hsign : ¬(c = '+' ∨ c = '-') := by
      rintro (rfl | rfl)
      · exact absurd hc (by decide)
      · exact absurd hc (by decide)
    rw [hshown, List.cons_append] at hread
    rw [if_pos hplain, hshown, List.cons_append, readYear, if_neg hsign, hread, Option.map_some]
    simp [hplain.1]
  · rw [if_neg hplain, List.cons_append]
    by_cases hnegative : year < 0
    · rw [if_pos hnegative, readYear_signed (.inr rfl) _ hmark, if_pos rfl,
        Int.ofNat_natAbs_of_nonpos hnegative.le, Int.neg_neg]
    · rw [if_neg hnegative, readYear_signed (.inl rfl) _ hmark, if_neg (by decide),
        Int.natAbs_of_nonneg (Int.not_lt.1 hnegative)]

theorem Valid.date_lt {time : CivilTime} (htime : time.Valid) :
    time.date.month < 100 ∧ time.date.day < 100 := by
  have hmonth := htime.date.month_le
  have hday := htime.date.day_le
  have hlength := Date.monthLength_le time.date.year time.date.month
  omega

/-- A time is read back from its text. -/
theorem ofText?_text {time : CivilTime} (htime : time.Valid) : ofText? time.text = some time := by
  obtain ⟨hmonth, hday⟩ := htime.date_lt
  obtain ⟨-, hhour, hminute, hsecond, hmillisecond⟩ := htime
  have htwo {value : Nat} (hvalue : value < 100) (mark : Char) (rest : List Char) :=
    readField_padded mark (show 0 < 2 by decide) hvalue rest
  have hthree := readField_padded '.' (show 0 < 3 by decide) hmillisecond ['Z']
  simp only [ofText?, text, String.toList_ofList, List.append_assoc, List.cons_append,
    readYear_yearText _ (show isDigit '-' = false by decide), htwo hmonth, htwo hday,
    htwo (show time.hour < 100 by omega), htwo (show time.minute < 100 by omega),
    htwo (show time.second < 100 by omega), hthree, Option.bind_eq_bind, Option.bind_some]
  rfl

/-! ## The shape of a text -/

/-- The text follows a pattern, in which `d` is any digit and all else is itself. -/
def Follows (pattern text : List Char) : Prop :=
  List.Forall₂ (fun mark c => if mark = 'd' then isDigit c = true else c = mark) pattern text

instance (pattern text : List Char) : Decidable (Follows pattern text) := by
  unfold Follows
  infer_instance

/-- The fixed shape of the years of four digits; the other years have a sign and at least four. -/
def Shaped (year : Int) (text : List Char) : Prop :=
  if 0 ≤ year ∧ year ≤ 9999 then Follows "dddd-dd-ddTdd:dd:dd.dddZ".toList text
  else ∃ shown rest, text = (if year < 0 then '-' else '+') :: (shown ++ rest) ∧
    4 ≤ shown.length ∧ (∀ c ∈ shown, isDigit c) ∧ Follows "-dd-ddTdd:dd:dd.dddZ".toList rest

theorem follows_padded {width value : Nat} (hwidth : 0 < width) (hfits : value < 10 ^ width)
    {pattern rest : List Char} (hrest : Follows pattern rest) :
    Follows (List.replicate width 'd' ++ pattern) (padded width value ++ rest) := by
  apply List.rel_append
  · rw [List.forall₂_iff_get]
    constructor
    · rw [List.length_replicate, length_padded hwidth hfits]
    · intro i hpattern htext
      rw [List.get_eq_getElem, List.getElem_replicate, if_pos rfl]
      exact isDigit_of_mem_padded (List.get_mem _ _)
  · exact hrest

theorem follows_mark {mark : Char} (hmark : mark ≠ 'd') {pattern rest : List Char}
    (hrest : Follows pattern rest) : Follows (mark :: pattern) (mark :: rest) :=
  .cons (by rw [if_neg hmark]) hrest

theorem shaped_text {time : CivilTime} (htime : time.Valid) :
    Shaped time.date.year time.text.toList := by
  obtain ⟨hmonth, hday⟩ := htime.date_lt
  obtain ⟨-, hhour, hminute, hsecond, hmillisecond⟩ := htime
  have htwo {mark : Char} (hmark : mark ≠ 'd') {value : Nat} (hvalue : value < 100)
      {pattern rest : List Char} (hrest : Follows pattern rest) :=
    follows_mark hmark (follows_padded (show 0 < 2 by decide) hvalue hrest)
  have hend : Follows ['Z'] ['Z'] := by decide
  have hshort : "-dd-ddTdd:dd:dd.dddZ".toList =
      ['-', 'd', 'd', '-', 'd', 'd', 'T', 'd', 'd', ':', 'd', 'd', ':', 'd', 'd',
        '.', 'd', 'd', 'd', 'Z'] := by decide
  have hlong : "dddd-dd-ddTdd:dd:dd.dddZ".toList =
      List.replicate 4 'd' ++ "-dd-ddTdd:dd:dd.dddZ".toList := by decide
  have hrest : Follows "-dd-ddTdd:dd:dd.dddZ".toList
      ('-' :: (padded 2 time.date.month ++ '-' :: (padded 2 time.date.day
        ++ 'T' :: (padded 2 time.hour ++ ':' :: (padded 2 time.minute
        ++ ':' :: (padded 2 time.second ++ '.' :: (padded 3 time.millisecond ++ ['Z']))))))) := by
    rw [hshort]
    exact htwo (by decide) hmonth <| htwo (by decide) hday <| htwo (by decide) (by omega) <|
      htwo (by decide) (by omega) <| htwo (by decide) (by omega) <|
      follows_mark (by decide) <| follows_padded (show 0 < 3 by decide) hmillisecond hend
  simp only [Shaped, text, String.toList_ofList, List.append_assoc, List.cons_append]
  by_cases hplain : 0 ≤ time.date.year ∧ time.date.year ≤ 9999
  · rw [if_pos hplain, yearText, if_pos hplain, hlong]
    exact follows_padded (by decide) (by omega) hrest
  · rw [if_neg hplain, yearText, if_neg hplain]
    exact ⟨_, _, rfl, le_length_padded _ _, fun c hc => isDigit_of_mem_padded hc, hrest⟩

end CivilTime

namespace Instant

/-! ## The time of an instant -/

theorem secondOfDay_lt (instant : Instant) : instant.secondOfDay < 86400 := by
  have hlt := Int.fmod_lt_of_pos instant.seconds (show (0 : Int) < secondsPerDay by decide)
  rw [secondOfDay]
  change _ < (86400 : Int) at hlt
  omega

/-- A day begins at a multiple of its seconds. -/
theorem seconds_eq (instant : Instant) :
    instant.seconds = instant.date.toDays * 86400 + instant.secondOfDay := by
  have hdivision := Int.fdiv_mul_add_fmod instant.seconds secondsPerDay
  have hnonneg := Int.fmod_nonneg_of_pos instant.seconds (show (0 : Int) < secondsPerDay by decide)
  rw [date, Date.toDays_ofDays, secondOfDay, Int.toNat_of_nonneg hnonneg]
  exact hdivision.symm

theorem isRepresentable_iff (instant : Instant) :
    instant.isRepresentable ↔
      (-262143 ≤ instant.date.year ∧ instant.date.year ≤ 262142) ∧
        (instant.nanoseconds < 1000000000 ∨
          instant.nanoseconds < 2000000000 ∧ instant.secondOfDay % 60 = 59) := by
  simp [isRepresentable]

theorem valid_civilTime {instant : Instant} (hinstant : instant.isRepresentable) :
    instant.civilTime.Valid := by
  obtain ⟨-, hnanoseconds⟩ := instant.isRepresentable_iff.1 hinstant
  have hsecond := instant.secondOfDay_lt
  refine ⟨Date.valid_ofDays _, ?_, ?_, ?_, ?_⟩ <;> simp only [civilTime] <;> omega

theorem toSeconds_civilTime {instant : Instant} (hinstant : instant.isRepresentable) :
    instant.civilTime.toSeconds = instant.seconds := by
  obtain ⟨-, hnanoseconds⟩ := instant.isRepresentable_iff.1 hinstant
  rw [instant.seconds_eq, CivilTime.toSeconds]
  by_cases hleap : instant.civilTime.second = 60
  · rw [if_pos hleap]
    simp only [civilTime] at hleap ⊢
    omega
  · rw [if_neg hleap]
    simp only [civilTime] at hleap ⊢
    omega

theorem toMilliseconds_civilTime {instant : Instant} (hinstant : instant.isRepresentable) :
    instant.civilTime.toMilliseconds = instant.nanoseconds / 1000000 := by
  obtain ⟨-, hnanoseconds⟩ := instant.isRepresentable_iff.1 hinstant
  rw [CivilTime.toMilliseconds]
  by_cases hleap : instant.civilTime.second = 60
  · rw [if_pos hleap]
    simp only [civilTime] at hleap ⊢
    omega
  · rw [if_neg hleap]
    simp only [civilTime] at hleap ⊢
    omega

/-- The text of an instant shows a time in the calendar, and by the calendar that time is the
instant, cut to milliseconds. -/
theorem timestamp_reads_back (instant : Instant) (hinstant : instant.isRepresentable) :
    ∃ time, CivilTime.ofText? instant.timestamp = some time ∧
      ((1 ≤ time.date.month ∧ time.date.month ≤ 12) ∧
        (1 ≤ time.date.day ∧
          time.date.day ≤ Date.monthLength time.date.year time.date.month) ∧
        time.hour < 24 ∧ time.minute < 60 ∧ time.second ≤ 60) ∧
      (time.toSeconds = instant.seconds ∧
        time.toMilliseconds = instant.nanoseconds / 1000000) ∧
      CivilTime.Shaped time.date.year instant.timestamp.toList := by
  have hvalid := valid_civilTime hinstant
  refine ⟨instant.civilTime, CivilTime.ofText?_text hvalid, ?_, ?_, CivilTime.shaped_text hvalid⟩
  · exact ⟨⟨hvalid.date.month_pos, hvalid.date.month_le⟩,
      ⟨hvalid.date.day_pos, hvalid.date.day_le⟩, hvalid.hour, hvalid.minute, hvalid.second⟩
  · exact ⟨toSeconds_civilTime hinstant, toMilliseconds_civilTime hinstant⟩

/-- The last millisecond of a leap second, at the end of February of a leap year before the year
zero. -/
theorem leap_second_reads_back :
    let instant : Instant := ⟨-62288265601, 1999999999⟩
    instant.isRepresentable ∧ instant.timestamp = "-0004-02-29T23:59:60.999Z" ∧
      ∃ time, CivilTime.ofText? instant.timestamp = some time ∧
        Date.monthLength time.date.year 2 = 29 ∧ time.toSeconds = -62288265601 ∧
        time.toMilliseconds = 1999 := by
  intro instant
  have hinstant : instant.isRepresentable := by decide +kernel
  obtain ⟨time, hread, -, ⟨hseconds, hmilliseconds⟩, -⟩ := timestamp_reads_back instant hinstant
  have htime : some time = some ⟨⟨-4, 2, 29⟩, 23, 59, 60, 999⟩ := by
    rw [← hread]
    decide +kernel
  refine ⟨hinstant, by decide +kernel, time, hread, ?_, hseconds,
    hmilliseconds.trans (by decide)⟩
  rw [Option.some.inj htime]
  decide

end Instant

end ArtifactRelease
