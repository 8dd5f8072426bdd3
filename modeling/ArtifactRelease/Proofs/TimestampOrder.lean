import ArtifactRelease.Metadata.Basic
import ArtifactRelease.Proofs.TimestampReading
import ArtifactRelease.Text.Utf8
import Mathlib.Data.List.Lex
import Mathlib.Data.Prod.Lex

/-!
# The order of timestamps

In the years of four digits a timestamp is a row of fields of fixed widths, so that timestamps are
in the order of their fields.  The fields are in the order of time: what comes first weighs more
than all that may follow.  Two texts are the same for the instants of one millisecond.
-/

namespace ArtifactRelease

open ArtifactRelease.Number ArtifactRelease.Text

/-! ## Bytes of a text -/

theorem encode_cons_of_ascii {c : Char} (hc : c.toNat < 128) (rest : List Char) :
    encode (c :: rest) = UInt8.ofNat c.toNat :: encode rest := by
  have hsize : c.utf8Size = 1 := by
    rw [Char.utf8Size_eq_one_iff, UInt32.le_iff_toNat_le]
    exact Nat.le_of_lt_succ hc
  rw [encode, List.flatMap_cons, String.utf8EncodeChar_eq_singleton hsize]
  rfl

theorem ofNat_lt_ofNat_iff {c d : Char} (hc : c.toNat < 128) (hd : d.toNat < 128) :
    UInt8.ofNat c.toNat < UInt8.ofNat d.toNat ↔ c < d := by
  rw [UInt8.lt_iff_toNat_lt, UInt8.toNat_ofNat_of_lt' (hc.trans (by decide)),
    UInt8.toNat_ofNat_of_lt' (hd.trans (by decide)), Char.lt_def, UInt32.lt_iff_toNat_lt]
  rfl

theorem ofNat_eq_ofNat_iff {c d : Char} (hc : c.toNat < 128) (hd : d.toNat < 128) :
    UInt8.ofNat c.toNat = UInt8.ofNat d.toNat ↔ c = d := by
  rw [← UInt8.toNat_inj, UInt8.toNat_ofNat_of_lt' (hc.trans (by decide)),
    UInt8.toNat_ofNat_of_lt' (hd.trans (by decide)), Char.toNat_inj]

/-- Bytes are in the order of the characters. -/
theorem encode_lt_iff {first second : List Char} (hfirst : ∀ c ∈ first, c.toNat < 128)
    (hsecond : ∀ c ∈ second, c.toNat < 128) : encode first < encode second ↔ first < second := by
  induction first generalizing second with
  | nil =>
      cases second with
      | nil => simp [encode]
      | cons d more =>
          rw [List.forall_mem_cons] at hsecond
          rw [encode_cons_of_ascii hsecond.1]
          simp [encode]
  | cons c later ih =>
      rw [List.forall_mem_cons] at hfirst
      cases second with
      | nil => simp [encode]
      | cons d more =>
          rw [List.forall_mem_cons] at hsecond
          rw [encode_cons_of_ascii hfirst.1, encode_cons_of_ascii hsecond.1,
            List.cons_lt_cons_iff, List.cons_lt_cons_iff, ih hfirst.2 hsecond.2,
            ofNat_lt_ofNat_iff hfirst.1 hsecond.1, ofNat_eq_ofNat_iff hfirst.1 hsecond.1]

namespace CivilTime

/-! ## Fields -/

def fields (time : CivilTime) : List Nat :=
  [time.date.year.toNat, time.date.month, time.date.day, time.hour, time.minute, time.second,
    time.millisecond]

/-- A time in a year of four digits. -/
structure Plain (time : CivilTime) : Prop extends Valid time where
  year_nonneg : 0 ≤ time.date.year
  year_le : time.date.year ≤ 9999

theorem Plain.toList_text {time : CivilTime} (htime : time.Plain) :
    time.text.toList = padded 4 time.date.year.toNat ++ '-' :: (padded 2 time.date.month
      ++ '-' :: (padded 2 time.date.day ++ 'T' :: (padded 2 time.hour
      ++ ':' :: (padded 2 time.minute ++ ':' :: (padded 2 time.second
      ++ '.' :: (padded 3 time.millisecond ++ ['Z'])))))) := by
  simp only [text, yearText, if_pos (And.intro htime.year_nonneg htime.year_le),
    String.toList_ofList, List.append_assoc, List.cons_append]

/-- Texts are in the order of what they show. -/
theorem text_lt_iff {first second : CivilTime} (hfirst : first.Plain) (hsecond : second.Plain) :
    first.text.toList < second.text.toList ↔ first.fields < second.fields := by
  obtain ⟨hmonth, hday⟩ := hfirst.date_lt
  obtain ⟨hmonth', hday'⟩ := hsecond.date_lt
  have hmark {mark : Char} {x y : List Char} : mark :: x < mark :: y ↔ x < y := by
    simp
  have htwo {mark : Char} {value other : Nat} (hvalue : value < 100) (hother : other < 100)
      {x y : List Char} :
      mark :: (padded 2 value ++ x) < mark :: (padded 2 other ++ y) ↔
        value < other ∨ value = other ∧ x < y :=
    hmark.trans (padded_append_lt_iff (by decide) hvalue hother)
  rw [hfirst.toList_text, hsecond.toList_text,
    padded_append_lt_iff (by decide) (by have := hfirst.year_le; omega)
      (by have := hsecond.year_le; omega),
    htwo hmonth hmonth', htwo hday hday',
    htwo (hfirst.hour.trans (by decide)) (hsecond.hour.trans (by decide)),
    htwo (hfirst.minute.trans (by decide)) (hsecond.minute.trans (by decide)),
    htwo (hfirst.second.trans_lt (by decide)) (hsecond.second.trans_lt (by decide)), hmark,
    padded_append_lt_iff (by decide) hfirst.millisecond hsecond.millisecond]
  simp only [fields, List.cons_lt_cons_iff, List.lt_irrefl]

/-- The second and the milliseconds that have passed of it, in their order. -/
def position (time : CivilTime) : Int ×ₗ Nat :=
  toLex (time.toSeconds, time.toMilliseconds)

theorem toSeconds_bounds {time : CivilTime} (htime : time.Valid) :
    time.date.toDays * 86400 ≤ time.toSeconds ∧
      time.toSeconds < (time.date.toDays + 1) * 86400 := by
  have hhour := htime.hour
  have hminute := htime.minute
  have hsecond := htime.second
  rw [toSeconds]
  split_ifs <;> omega

theorem position_lt_of_date {first second : CivilTime} (hfirst : first.Valid)
    (hsecond : second.Valid) (hdate : first.date.Before second.date) :
    first.position < second.position := by
  have hdays := hdate.toDays_lt hfirst.date hsecond.date
  have hend := (toSeconds_bounds hfirst).2
  have hstart := (toSeconds_bounds hsecond).1
  rw [position, position, Prod.Lex.toLex_lt_toLex]
  left
  change first.toSeconds < second.toSeconds
  omega

/-- On one day it is the time of day that counts.  Where only the seconds are 59 and 60, it is the
milliseconds of one second. -/
theorem position_lt_of_clock {first second : CivilTime} (hfirst : first.Valid)
    (hsecond : second.Valid) (hdate : first.date = second.date)
    (hclock : [first.hour, first.minute, first.second, first.millisecond] <
      [second.hour, second.minute, second.second, second.millisecond]) :
    first.position < second.position := by
  obtain ⟨-, -, hminute, hfirstSecond, hmillisecond⟩ := hfirst
  obtain ⟨-, -, hminute', hsecondSecond, hmillisecond'⟩ := hsecond
  simp only [List.cons_lt_cons_iff, List.lt_irrefl, and_false, or_false] at hclock
  rw [position, position, Prod.Lex.toLex_lt_toLex]
  simp only [toSeconds, toMilliseconds, hdate]
  split_ifs <;> omega

/-- Whatever is shown first weighs more than all that comes behind it. -/
theorem position_lt_of_fields_lt {first second : CivilTime} (hfirst : first.Plain)
    (hsecond : second.Plain) (hfields : first.fields < second.fields) :
    first.position < second.position := by
  have hyear := hfirst.year_nonneg
  have hyear' := hsecond.year_nonneg
  rw [fields, fields, List.cons_lt_cons_iff, List.cons_lt_cons_iff,
    List.cons_lt_cons_iff] at hfields
  rcases hfields with hlt | ⟨heq, hlater⟩
  · exact position_lt_of_date hfirst.toValid hsecond.toValid (.inl (by omega))
  · have hyears : first.date.year = second.date.year := by omega
    rcases hlater with hmonth | ⟨hmonth, hday | ⟨hday, hclock⟩⟩
    · exact position_lt_of_date hfirst.toValid hsecond.toValid (.inr ⟨hyears, .inl hmonth⟩)
    · exact position_lt_of_date hfirst.toValid hsecond.toValid
        (.inr ⟨hyears, .inr ⟨hmonth, hday⟩⟩)
    · have hdate : first.date = second.date := by
        rw [Date.mk.injEq]
        exact ⟨hyears, hmonth, hday⟩
      exact position_lt_of_clock hfirst.toValid hsecond.toValid hdate hclock

theorem eq_of_fields_eq {first second : CivilTime} (hfirst : first.Plain) (hsecond : second.Plain)
    (hfields : first.fields = second.fields) : first = second := by
  have hyear := hfirst.year_nonneg
  have hyear' := hsecond.year_nonneg
  simp only [fields, List.cons.injEq, and_true] at hfields
  obtain ⟨heq, hmonth, hday, hhour, hminute, hsecond, hmillisecond⟩ := hfields
  have hyears : first.date.year = second.date.year := by omega
  rw [CivilTime.mk.injEq, Date.mk.injEq]
  exact ⟨⟨hyears, hmonth, hday⟩, hhour, hminute, hsecond, hmillisecond⟩

/-- Texts are in the order of time. -/
theorem text_lt_iff_position_lt {first second : CivilTime} (hfirst : first.Plain)
    (hsecond : second.Plain) :
    first.text.toList < second.text.toList ↔ first.position < second.position := by
  rw [text_lt_iff hfirst hsecond]
  constructor
  · exact position_lt_of_fields_lt hfirst hsecond
  · intro hposition
    rcases lt_trichotomy first.fields second.fields with hlt | heq | hgt
    · exact hlt
    · rw [eq_of_fields_eq hfirst hsecond heq] at hposition
      exact absurd hposition (lt_irrefl _)
    · exact absurd (position_lt_of_fields_lt hsecond hfirst hgt) hposition.asymm

theorem text_eq_iff_position_eq {first second : CivilTime} (hfirst : first.Plain)
    (hsecond : second.Plain) : first.text = second.text ↔ first.position = second.position := by
  have hforth := text_lt_iff_position_lt hfirst hsecond
  have hback := text_lt_iff_position_lt hsecond hfirst
  constructor
  · intro htext
    rw [htext] at hforth hback
    exact le_antisymm (not_lt.1 (hback.not.1 (List.lt_irrefl _)))
      (not_lt.1 (hforth.not.1 (List.lt_irrefl _)))
  · intro hposition
    rw [hposition] at hforth hback
    exact String.toList_inj.1 <| List.le_antisymm (List.not_lt.1 (hback.not.2 (lt_irrefl _)))
      (List.not_lt.1 (hforth.not.2 (lt_irrefl _)))

theorem Follows.ascii {pattern text : List Char} (htext : Follows pattern text)
    (hpattern : pattern.all (·.toNat < 128)) : ∀ c ∈ text, c.toNat < 128 := by
  induction htext with
  | nil => exact List.forall_mem_nil _
  | @cons mark c pattern text hc htext ih =>
      rw [List.all_cons, Bool.and_eq_true, decide_eq_true_eq] at hpattern
      refine List.forall_mem_cons.2 ⟨?_, ih hpattern.2⟩
      split_ifs at hc with hmark
      · obtain ⟨value, hvalue, rfl⟩ := exists_digitChar hc
        rw [Nat.toNat_digitChar_of_lt_ten hvalue]
        omega
      · exact hc ▸ hpattern.1

/-- Bytes of texts are in the order of time. -/
theorem encode_text_le_iff {first second : CivilTime} (hfirst : first.Plain)
    (hsecond : second.Plain) :
    encode first.text.toList ≤ encode second.text.toList ↔ first.position ≤ second.position := by
  have hascii {time : CivilTime} (htime : time.Plain) : ∀ c ∈ time.text.toList, c.toNat < 128 := by
    have hshape := shaped_text htime.toValid
    rw [Shaped, if_pos ⟨htime.year_nonneg, htime.year_le⟩] at hshape
    exact hshape.ascii (by decide)
  rw [← List.not_lt, ← not_lt, encode_lt_iff (hascii hsecond) (hascii hfirst),
    text_lt_iff_position_lt hsecond hfirst]

end CivilTime

namespace Instant

/-! ## Build records -/

/-- An instant of a year of four digits. -/
structure Plain (instant : Instant) : Prop where
  representable : instant.isRepresentable
  year_nonneg : 0 ≤ instant.date.year
  year_le : instant.date.year ≤ 9999

/-- The instant, cut to milliseconds. -/
def position (instant : Instant) : Int ×ₗ Nat :=
  toLex (instant.seconds, instant.nanoseconds / 1000000)

theorem Plain.civilTime {instant : Instant} (hinstant : instant.Plain) :
    instant.civilTime.Plain where
  toValid := valid_civilTime hinstant.representable
  year_nonneg := hinstant.year_nonneg
  year_le := hinstant.year_le

theorem Plain.position_civilTime {instant : Instant} (hinstant : instant.Plain) :
    instant.civilTime.position = instant.position := by
  rw [CivilTime.position, toSeconds_civilTime hinstant.representable,
    toMilliseconds_civilTime hinstant.representable, position]

theorem encode_timestamp_le_iff {first second : Instant} (hfirst : first.Plain)
    (hsecond : second.Plain) :
    encode first.timestamp.toList ≤ encode second.timestamp.toList ↔
      first.position ≤ second.position := by
  rw [timestamp, timestamp, CivilTime.encode_text_le_iff hfirst.civilTime hsecond.civilTime,
    hfirst.position_civilTime, hsecond.position_civilTime]

theorem timestamp_eq_iff {first second : Instant} (hfirst : first.Plain)
    (hsecond : second.Plain) :
    first.timestamp = second.timestamp ↔
      first.seconds = second.seconds ∧
        first.nanoseconds / 1000000 = second.nanoseconds / 1000000 := by
  rw [timestamp, timestamp, CivilTime.text_eq_iff_position_eq hfirst.civilTime hsecond.civilTime,
    hfirst.position_civilTime, hsecond.position_civilTime, position, position,
    EmbeddingLike.apply_eq_iff_eq, Prod.mk.injEq]

theorem position_mono {first second : Instant}
    (hle : toLex (first.seconds, first.nanoseconds) ≤ toLex (second.seconds, second.nanoseconds)) :
    first.position ≤ second.position := by
  rw [Prod.Lex.toLex_le_toLex] at hle
  rw [position, position, Prod.Lex.toLex_le_toLex]
  rcases hle with hlt | ⟨heq, hle⟩
  · exact .inl hlt
  · exact .inr ⟨heq, Nat.div_le_div_right hle⟩

/-- Timestamps are in the order of time, and they are the same within one millisecond.  Build
records that are sorted by their timestamps are in the order of time. -/
theorem timestamps_in_order :
    (∀ first second : Instant, first.Plain → second.Plain →
      (toLex (first.seconds, first.nanoseconds) ≤ toLex (second.seconds, second.nanoseconds) →
        encode first.timestamp.toList ≤ encode second.timestamp.toList) ∧
      (first.timestamp = second.timestamp ↔
        first.seconds = second.seconds ∧
          first.nanoseconds / 1000000 = second.nanoseconds / 1000000)) ∧
    ∀ records : List (Metadata × Instant),
      (∀ record ∈ records, record.2.Plain ∧ record.1.createdAt = record.2.timestamp) →
        (records.mergeSort fun first second =>
          decide (encode first.1.createdAt.toList ≤ encode second.1.createdAt.toList)).Pairwise
            fun first second => first.2.position ≤ second.2.position := by
  constructor
  · intro first second hfirst hsecond
    constructor
    · intro hle
      exact (encode_timestamp_le_iff hfirst hsecond).2 (position_mono hle)
    · exact timestamp_eq_iff hfirst hsecond
  · intro records hrecords
    have hsorted : (records.mergeSort fun first second =>
        decide (encode first.1.createdAt.toList ≤ encode second.1.createdAt.toList)).Pairwise
          fun first second =>
            decide (encode first.1.createdAt.toList ≤ encode second.1.createdAt.toList) := by
      apply List.pairwise_mergeSort
      · intro first second third hforth hback
        exact decide_eq_true (List.le_trans (of_decide_eq_true hforth) (of_decide_eq_true hback))
      · intro first second
        simpa using List.le_total _ _
    apply hsorted.imp_of_mem
    intro first second hfirst hsecond hle
    obtain ⟨hplain, hcreated⟩ := hrecords first (List.mem_mergeSort.1 hfirst)
    obtain ⟨hplain', hcreated'⟩ := hrecords second (List.mem_mergeSort.1 hsecond)
    rw [hcreated, hcreated', decide_eq_true_eq] at hle
    exact (encode_timestamp_le_iff hplain hplain').1 hle

/-- The leap second comes before the new year, and two records of one of its milliseconds are not
told apart. -/
theorem leap_second_in_order :
    let last : Instant := ⟨1483228799, 1500000000⟩
    let again : Instant := ⟨1483228799, 1500999999⟩
    let next : Instant := ⟨1483228800, 0⟩
    let record (instant : Instant) : Metadata × Instant :=
      ({ commit := "c", createdAt := instant.timestamp }, instant)
    last.timestamp = "2016-12-31T23:59:60.500Z" ∧
      encode last.timestamp.toList ≤ encode next.timestamp.toList ∧
      last.timestamp = again.timestamp ∧ last.timestamp ≠ next.timestamp ∧
      ([record next, record last, record again].mergeSort fun first second =>
        decide (encode first.1.createdAt.toList ≤ encode second.1.createdAt.toList)).Pairwise
          fun first second => first.2.position ≤ second.2.position := by
  intro last again next record
  have hlast : last.Plain := ⟨by decide +kernel, by decide +kernel, by decide +kernel⟩
  have hagain : again.Plain := ⟨by decide +kernel, by decide +kernel, by decide +kernel⟩
  have hnext : next.Plain := ⟨by decide +kernel, by decide +kernel, by decide +kernel⟩
  obtain ⟨horder, hsorted⟩ := timestamps_in_order
  refine ⟨by decide +kernel, (horder last next hlast hnext).1 ?_,
    (horder last again hlast hagain).2.2 ⟨rfl, by decide⟩, ?_, hsorted _ ?_⟩
  · exact Prod.Lex.toLex_le_toLex.2 (.inl (by decide))
  · intro hsame
    exact absurd ((horder last next hlast hnext).2.1 hsame).1 (by decide)
  · simp [record, hlast, hagain, hnext]

end Instant

end ArtifactRelease
