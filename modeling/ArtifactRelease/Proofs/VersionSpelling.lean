import ArtifactRelease.ReleaseTag
import ArtifactRelease.Proofs.Digits
import ArtifactRelease.Proofs.Lines

/-!
# Spellings of versions

The grammar of semantic versions, stated without a reader.  The reader accepts exactly the texts of
the grammar, and printing what it has read gives the text back, so that a version has one spelling
and a tag names at most one version.
-/

namespace ArtifactRelease.Version

open ArtifactRelease.Number ArtifactRelease.Text

/-! ## The grammar -/

/-- A number without needless zeros that fits into 64 bits. -/
structure IsNumber (text : List Char) : Prop extends IsNumeral text where
  bounded : ofDigits text ≤ Nat.pow 2 64 - 1

def InIdentifier (c : Char) : Prop :=
  ('0' ≤ c ∧ c ≤ '9') ∨ ('A' ≤ c ∧ c ≤ 'Z') ∨ ('a' ≤ c ∧ c ≤ 'z') ∨ c = '-'

/-- An identifier of a part.  Only a pre-release identifier may not be a number with a needless
zero in front. -/
structure IsIdentifier (part : Part) (text : List Char) : Prop where
  nonempty : text ≠ []
  chars : ∀ c ∈ text, InIdentifier c
  no_leading_zero : part = .preRelease → (∀ c ∈ text, isDigit c) → IsNumeral text

/-- Nothing, or a mark and identifiers with dots between them. -/
def IsSuffix (mark : Char) (part : Part) (text : List Char) : Prop :=
  text = [] ∨ ∃ identifiers : List (List Char), identifiers ≠ [] ∧
    (∀ identifier ∈ identifiers, IsIdentifier part identifier) ∧
    text = mark :: ['.'].intercalate identifiers

/-- The texts of semantic versions. -/
def IsSpelling (text : List Char) : Prop :=
  ∃ major minor patch preRelease build,
    IsNumber major ∧ IsNumber minor ∧ IsNumber patch ∧
    IsSuffix '-' .preRelease preRelease ∧ IsSuffix '+' .build build ∧
    text = major ++ '.' :: minor ++ '.' :: patch ++ preRelease ++ build

structure WellFormed (version : Version) : Prop where
  major_le : version.major ≤ maxNumber
  minor_le : version.minor ≤ maxNumber
  patch_le : version.patch ≤ maxNumber
  preRelease : ∀ identifier ∈ version.preRelease, IsIdentifier .preRelease identifier.toList
  build : ∀ identifier ∈ version.build, IsIdentifier .build identifier.toList

theorem isNumber_iff {text : List Char} :
    IsNumber text ↔ ∃ value, value ≤ maxNumber ∧ text = digits value := by
  constructor
  · intro hnumber
    exact ⟨ofDigits text, hnumber.bounded, (digits_ofDigits hnumber.toIsNumeral).symm⟩
  · rintro ⟨value, hvalue, rfl⟩
    exact ⟨digits_isNumeral value, (ofDigits_digits value).symm ▸ hvalue⟩

theorem isSuffix_iff {mark : Char} {part : Part} {text : List Char} :
    IsSuffix mark part text ↔ ∃ identifiers : List String,
      (∀ identifier ∈ identifiers, IsIdentifier part identifier.toList) ∧
      text = marked mark identifiers := by
  constructor
  · rintro (rfl | ⟨identifiers, hne, hidentifiers, rfl⟩)
    · exact ⟨[], by simp, rfl⟩
    · refine ⟨identifiers.map String.ofList, by simpa using hidentifiers, ?_⟩
      simp [marked, dottedChars, hne, Function.comp_def]
  · rintro ⟨identifiers, hidentifiers, rfl⟩
    by_cases hne : identifiers = []
    · exact .inl (by simp [marked, hne])
    · refine .inr ⟨identifiers.map String.toList, by simpa using hne, by simpa using hidentifiers, ?_⟩
      simp [marked, dottedChars, hne]

/-- The texts of the grammar are those that the versions are printed as. -/
theorem isSpelling_iff {text : List Char} :
    IsSpelling text ↔ ∃ version : Version, version.WellFormed ∧ text = version.textChars := by
  constructor
  · rintro ⟨_, _, _, _, _, hmajor, hminor, hpatch, hpreRelease, hbuild, rfl⟩
    obtain ⟨major, hmajorLe, rfl⟩ := isNumber_iff.1 hmajor
    obtain ⟨minor, hminorLe, rfl⟩ := isNumber_iff.1 hminor
    obtain ⟨patch, hpatchLe, rfl⟩ := isNumber_iff.1 hpatch
    obtain ⟨preRelease, hbefore, rfl⟩ := isSuffix_iff.1 hpreRelease
    obtain ⟨build, hbehind, rfl⟩ := isSuffix_iff.1 hbuild
    exact ⟨⟨major, minor, patch, preRelease, build⟩,
      ⟨hmajorLe, hminorLe, hpatchLe, hbefore, hbehind⟩, rfl⟩
  · rintro ⟨version, hversion, rfl⟩
    exact ⟨_, _, _, _, _, isNumber_iff.2 ⟨_, hversion.major_le, rfl⟩,
      isNumber_iff.2 ⟨_, hversion.minor_le, rfl⟩, isNumber_iff.2 ⟨_, hversion.patch_le, rfl⟩,
      isSuffix_iff.2 ⟨_, hversion.preRelease, rfl⟩, isSuffix_iff.2 ⟨_, hversion.build, rfl⟩, rfl⟩

/-! ## Taking characters while they fit -/

theorem bind_eq_ok_iff {ε α β : Type} {first : Except ε α} {next : α → Except ε β} {result : β} :
    (first >>= next) = .ok result ↔ ∃ value, first = .ok value ∧ next value = .ok result := by
  cases first <;> simp [bind, Except.bind]

/-- The first character, if there is one, is not among those taken. -/
def Stops (takes : Char → Bool) (rest : List Char) : Prop :=
  ∀ c ∈ rest.head?, ¬takes c

theorem stops_nil (takes : Char → Bool) : Stops takes [] := by
  rintro c ⟨⟩

theorem stops_cons {takes : Char → Bool} {c : Char} {rest : List Char} (hc : ¬takes c) :
    Stops takes (c :: rest) := by
  rintro _ ⟨⟩
  exact hc

theorem takeWhile_dropWhile_iff {takes : Char → Bool} {text taken rest : List Char} :
    (text.takeWhile takes = taken ∧ text.dropWhile takes = rest) ↔
      text = taken ++ rest ∧ (∀ c ∈ taken, takes c) ∧ Stops takes rest := by
  constructor
  · rintro ⟨rfl, rfl⟩
    refine ⟨List.takeWhile_append_dropWhile.symm, fun c hc => List.mem_takeWhile_imp hc, ?_⟩
    intro c hc
    have hstops := List.head?_dropWhile_not takes text
    simpa [Option.mem_def.1 hc] using hstops
  · rintro ⟨rfl, htaken, hrest⟩
    rw [List.takeWhile_append_of_pos htaken, List.dropWhile_append_of_pos htaken]
    cases rest with
    | nil => simp
    | cons c later => simp [hrest c rfl]

/-! ## Numbers and dots -/

theorem readNumber_eq_ok_iff {part : Part} {text rest : List Char} {value : Nat} :
    readNumber part text = .ok (value, rest) ↔
      value ≤ maxNumber ∧ text = digits value ++ rest ∧ Stops isDigit rest := by
  constructor
  · intro hread
    rw [readNumber] at hread
    generalize hshown : text.takeWhile isDigit = shown at hread
    generalize hmore : text.dropWhile isDigit = more at hread
    obtain ⟨htext, hdigits, hstops⟩ := takeWhile_dropWhile_iff.1 ⟨hshown, hmore⟩
    split at hread
    · cases hread
    · cases hread
    · cases hread
    · next hzero hend hother =>
        have hne : shown ≠ [] := by
          rintro rfl
          cases more with
          | nil => exact hend rfl rfl
          | cons c later => exact hother c later rfl rfl
        have hnumeral : IsNumeral shown := .of_ne hne hdigits hzero
        split at hread
        · next hbound =>
            cases hread
            exact ⟨hbound, by rw [digits_ofDigits hnumeral, htext], hstops⟩
        · cases hread
  · rintro ⟨hvalue, htext, hstops⟩
    have hnumeral := digits_isNumeral value
    obtain ⟨hshown, hmore⟩ := takeWhile_dropWhile_iff.2 ⟨htext, hnumeral.digits, hstops⟩
    rw [readNumber, hshown, hmore]
    split
    · next hnil => exact absurd hnil hnumeral.nonempty
    · next hnil => exact absurd hnil hnumeral.nonempty
    · next hzero => simpa [hzero] using hnumeral.no_leading_zero
    · rw [ofDigits_digits, if_pos hvalue]

theorem readDot_eq_ok_iff {part : Part} {text rest : List Char} :
    readDot part text = .ok rest ↔ text = '.' :: rest := by
  constructor
  · intro hread
    unfold readDot at hread
    split at hread
    · rw [Except.ok.inj hread]
    · cases hread
    · cases hread
  · rintro rfl
    rfl

/-! ## Identifiers -/

theorem isIdentifierChar_iff {c : Char} : isIdentifierChar c ↔ InIdentifier c := by
  simp [isIdentifierChar, isDigit, InIdentifier, or_assoc]

theorem not_inIdentifier_dot : ¬InIdentifier '.' := by
  rw [← isIdentifierChar_iff]
  decide

/-- A number with a needless zero in front is all that the check for leading zeros finds. -/
theorem hasLeadingZero_eq_false_iff {identifier : List Char} (hne : identifier ≠ []) :
    hasLeadingZero identifier = false ↔
      ((∀ c ∈ identifier, isDigit c) → IsNumeral identifier) := by
  constructor
  · intro hzero hdigits
    refine .of_ne hne hdigits ?_
    rintro c rest rfl
    have hall : (c :: rest).all isDigit := by
      rw [List.all_eq_true]
      exact fun d hd => hdigits d (List.mem_cons_of_mem _ hd)
    rw [hasLeadingZero, hall] at hzero
    cases hzero
  · intro hnumeral
    rw [← Bool.not_eq_true]
    intro hzero
    unfold hasLeadingZero at hzero
    split at hzero
    · next c rest =>
        have hdigits : ∀ d ∈ '0' :: c :: rest, isDigit d := by
          rw [List.forall_mem_cons]
          exact ⟨rfl, by simpa using hzero⟩
        simpa using (hnumeral hdigits).no_leading_zero rfl
    · cases hzero

theorem isIdentifier_iff {part : Part} {text : List Char} (hchars : ∀ c ∈ text, InIdentifier c) :
    IsIdentifier part text ↔ text ≠ [] ∧ ¬(part = .preRelease ∧ hasLeadingZero text) := by
  constructor
  · intro htext
    refine ⟨htext.nonempty, ?_⟩
    rintro ⟨hpart, hzero⟩
    rw [(hasLeadingZero_eq_false_iff htext.nonempty).2 (htext.no_leading_zero hpart)] at hzero
    cases hzero
  · rintro ⟨hne, hzero⟩
    refine ⟨hne, hchars, fun hpart => (hasLeadingZero_eq_false_iff hne).1 ?_⟩
    simpa [hpart] using hzero

theorem checkIdentifier_eq_ok_iff {part : Part} {text : List Char} {identifier : String}
    (hchars : ∀ c ∈ text, InIdentifier c) :
    checkIdentifier part text = .ok identifier ↔
      IsIdentifier part text ∧ String.ofList text = identifier := by
  rw [checkIdentifier, isIdentifier_iff hchars]
  by_cases hempty : text = []
  · simp [hempty]
  · by_cases hzero : part = .preRelease ∧ hasLeadingZero text
    · simp [hempty, hzero]
    · simp [hempty, hzero]

theorem mapM_checkIdentifier_eq_ok_iff {part : Part} {texts : List (List Char)}
    {identifiers : List String} (hchars : ∀ text ∈ texts, ∀ c ∈ text, InIdentifier c) :
    texts.mapM (checkIdentifier part) = .ok identifiers ↔
      (∀ text ∈ texts, IsIdentifier part text) ∧ texts.map String.ofList = identifiers := by
  induction texts generalizing identifiers with
  | nil => simp [pure, Except.pure]
  | cons text later ih =>
      rw [List.forall_mem_cons] at hchars
      simp only [List.mapM_cons, bind_eq_ok_iff, checkIdentifier_eq_ok_iff hchars.1,
        ih hchars.2, List.forall_mem_cons, List.map_cons, pure, Except.pure, Except.ok.injEq]
      constructor
      · rintro ⟨_, ⟨htext, rfl⟩, _, ⟨hlater, rfl⟩, rfl⟩
        exact ⟨⟨htext, hlater⟩, rfl⟩
      · rintro ⟨⟨htext, hlater⟩, rfl⟩
        exact ⟨_, ⟨htext, rfl⟩, _, ⟨hlater, rfl⟩, rfl⟩

/-! ## Parts behind a mark -/

theorem stops_marked_append {takes : Char → Bool} {mark : Char} {rest : List Char}
    (identifiers : List String) (hmark : ¬takes mark) (hrest : Stops takes rest) :
    Stops takes (marked mark identifiers ++ rest) := by
  rw [marked]
  split
  · exact hrest
  · exact stops_cons hmark

def isBodyChar (c : Char) : Bool :=
  isIdentifierChar c || c = '.'

theorem isBodyChar_iff {c : Char} : isBodyChar c ↔ InIdentifier c ∨ c = '.' := by
  rw [isBodyChar, Bool.or_eq_true, isIdentifierChar_iff, decide_eq_true_eq]

theorem isBodyChar_of_mem_dottedChars {identifiers : List String}
    (hidentifiers : ∀ identifier ∈ identifiers, ∀ c ∈ identifier.toList, InIdentifier c) :
    ∀ c ∈ dottedChars identifiers, isBodyChar c := by
  intro c hc
  rw [isBodyChar_iff]
  induction identifiers with
  | nil => cases hc
  | cons identifier later ih =>
      rw [List.forall_mem_cons] at hidentifiers
      rcases later with _ | ⟨next, others⟩
      · exact .inl (hidentifiers.1 c (by simpa [dottedChars] using hc))
      · simp only [dottedChars, List.map_cons, List.intercalate_cons_cons, List.mem_append,
          List.mem_singleton] at hc ih
        rcases hc with (hc | rfl) | hc
        · exact .inl (hidentifiers.1 c hc)
        · exact .inr rfl
        · exact ih hidentifiers.2 hc

theorem splitOn_dottedChars {identifiers : List String} (hne : identifiers ≠ [])
    (hidentifiers : ∀ identifier ∈ identifiers, ∀ c ∈ identifier.toList, InIdentifier c) :
    splitOn '.' (dottedChars identifiers) = identifiers.map String.toList := by
  rw [splitOn_eq, dottedChars]
  refine List.splitOn_intercalate '.' ?_ (by simpa using hne)
  intro text htext hdot
  obtain ⟨identifier, hmem, rfl⟩ := List.mem_map.1 htext
  exact not_inIdentifier_dot (hidentifiers identifier hmem '.' hdot)

theorem readIdentifiers_eq_ok_iff {part : Part} {text rest : List Char}
    {identifiers : List String} :
    readIdentifiers part text = .ok (identifiers, rest) ↔
      identifiers ≠ [] ∧ (∀ identifier ∈ identifiers, IsIdentifier part identifier.toList) ∧
      text = dottedChars identifiers ++ rest ∧ Stops isBodyChar rest := by
  have hread : readIdentifiers part text = .ok (identifiers, rest) ↔
      (splitOn '.' (text.takeWhile isBodyChar)).mapM (checkIdentifier part) = .ok identifiers ∧
        text.dropWhile isBodyChar = rest := by
    simp only [readIdentifiers, bind_eq_ok_iff, pure, Except.pure, Except.ok.injEq, Prod.mk.injEq]
    exact ⟨fun ⟨_, hfound, heq, hrest⟩ => ⟨heq ▸ hfound, hrest⟩,
      fun ⟨hfound, hrest⟩ => ⟨_, hfound, rfl, hrest⟩⟩
  rw [hread]
  constructor
  · rintro ⟨hfound, hrest⟩
    generalize hshown : text.takeWhile isBodyChar = body at hfound
    obtain ⟨htext, hbody, hstops⟩ := takeWhile_dropWhile_iff.1 ⟨hshown, hrest⟩
    have hchars : ∀ piece ∈ splitOn '.' body, ∀ c ∈ piece, InIdentifier c := by
      intro piece hpiece c hc
      obtain ⟨hmem, hdot⟩ := mem_of_mem_splitOn hpiece hc
      exact (isBodyChar_iff.1 (hbody c hmem)).resolve_right hdot
    obtain ⟨hpieces, rfl⟩ := (mapM_checkIdentifier_eq_ok_iff hchars).1 hfound
    refine ⟨?_, by simpa using hpieces, ?_, hstops⟩
    · simp [splitOn_eq]
    · simp [htext, dottedChars, Function.comp_def, splitOn_eq, List.intercalate_splitOn]
  · rintro ⟨hne, hidentifiers, htext, hstops⟩
    have hchars : ∀ identifier ∈ identifiers, ∀ c ∈ identifier.toList, InIdentifier c :=
      fun identifier hmem => (hidentifiers identifier hmem).chars
    obtain ⟨hshown, hmore⟩ := takeWhile_dropWhile_iff.2
      ⟨htext, isBodyChar_of_mem_dottedChars hchars, hstops⟩
    rw [hshown, hmore, splitOn_dottedChars hne hchars,
      mapM_checkIdentifier_eq_ok_iff (by simpa using hchars)]
    exact ⟨⟨by simpa using hidentifiers, by simp [Function.comp_def]⟩, rfl⟩

theorem readOptional_eq_ok_iff {mark : Char} {part : Part} {text rest : List Char}
    {identifiers : List String} :
    readOptional mark part text = .ok (identifiers, rest) ↔
      (∀ identifier ∈ identifiers, IsIdentifier part identifier.toList) ∧
      text = marked mark identifiers ++ rest ∧
      (if identifiers = [] then Stops (· = mark) rest else Stops isBodyChar rest) := by
  by_cases hmark : ∃ more, text = mark :: more
  · obtain ⟨more, rfl⟩ := hmark
    have hread : readOptional mark part (mark :: more) = readIdentifiers part more := by
      simp [readOptional]
    rw [hread, readIdentifiers_eq_ok_iff]
    by_cases hnone : identifiers = []
    · subst hnone
      constructor
      · rintro ⟨hne, -⟩
        exact absurd rfl hne
      · rintro ⟨-, htext, hstops⟩
        have hrest : mark :: more = rest := htext
        rw [if_pos rfl, ← hrest] at hstops
        exact absurd (decide_eq_true rfl) (hstops mark rfl)
    · simp [marked, hnone]
  · have hread : readOptional mark part text = .ok ([], text) := by
      cases text with
      | nil => rfl
      | cons c more =>
          have hc : c ≠ mark := fun hc => hmark ⟨more, hc ▸ rfl⟩
          simp [readOptional, hc]
    rw [hread]
    constructor
    · rintro ⟨⟩
      refine ⟨by simp, rfl, ?_⟩
      rw [if_pos rfl]
      intro c hc hmatch
      obtain rfl := of_decide_eq_true hmatch
      exact hmark (List.head?_eq_some_iff.1 hc)
    · rintro ⟨-, htext, -⟩
      by_cases hnone : identifiers = []
      · subst hnone
        rw [htext]
        rfl
      · exact absurd ⟨_, by simpa [marked, hnone] using htext⟩ hmark

/-! ## Versions -/

/-- The parts are read one behind the other, up to the end of the text. -/
theorem parseChars_eq_ok_iff_reads {text : List Char} {version : Version} :
    parseChars text = .ok version ↔
      ∃ afterMajor fromMinor afterMinor fromPatch afterPatch afterPreRelease,
        readNumber .major text = .ok (version.major, afterMajor) ∧
        readDot .major afterMajor = .ok fromMinor ∧
        readNumber .minor fromMinor = .ok (version.minor, afterMinor) ∧
        readDot .minor afterMinor = .ok fromPatch ∧
        readNumber .patch fromPatch = .ok (version.patch, afterPatch) ∧
        readOptional '-' .preRelease afterPatch = .ok (version.preRelease, afterPreRelease) ∧
        readOptional '+' .build afterPreRelease = .ok (version.build, []) := by
  by_cases hempty : text.isEmpty
  · obtain rfl := List.isEmpty_iff.1 hempty
    constructor
    · rintro ⟨⟩
    · rintro ⟨_, _, _, _, _, _, ⟨⟩, _⟩
  · rw [parseChars, if_neg hempty]
    simp only [bind_eq_ok_iff, Prod.exists]
    constructor
    · intro h
      obtain ⟨major, afterMajor, hmajor, fromMinor, hminorDot, minor, afterMinor, hminor,
        fromPatch, hpatchDot, patch, afterPatch, hpatch, preRelease, afterPreRelease, hpreRelease,
        build, afterBuild, hbuild, hend⟩ := h
      cases afterBuild with
      | nil =>
          obtain rfl := Except.ok.inj hend
          exact ⟨_, _, _, _, _, _, hmajor, hminorDot, hminor, hpatchDot, hpatch, hpreRelease,
            hbuild⟩
      | cons c later => cases hend
    · rintro ⟨_, _, _, _, _, _, hmajor, hminorDot, hminor, hpatchDot, hpatch, hpreRelease, hbuild⟩
      exact ⟨_, _, hmajor, _, hminorDot, _, _, hminor, _, hpatchDot, _, _, hpatch, _, _,
        hpreRelease, _, _, hbuild, rfl⟩

theorem parseChars_eq_ok_iff {text : List Char} {version : Version} :
    parseChars text = .ok version ↔ version.WellFormed ∧ text = version.textChars := by
  simp only [parseChars_eq_ok_iff_reads, readNumber_eq_ok_iff, readDot_eq_ok_iff,
    readOptional_eq_ok_iff]
  constructor
  · rintro ⟨_, _, _, _, _, _, ⟨hmajor, rfl, -⟩, rfl, ⟨hminor, rfl, -⟩, rfl, ⟨hpatch, rfl, -⟩,
      ⟨hpreRelease, rfl, -⟩, hbuild, rfl, -⟩
    exact ⟨⟨hmajor, hminor, hpatch, hpreRelease, hbuild⟩, by simp [textChars]⟩
  · rintro ⟨hversion, rfl⟩
    have hbuildStops {takes : Char → Bool} (hplus : ¬takes '+') :
        Stops takes (marked '+' version.build) := by
      simpa using stops_marked_append version.build hplus (stops_nil takes)
    have hpatchStops : Stops isDigit (marked '-' version.preRelease ++ marked '+' version.build) :=
      stops_marked_append _ (by decide) (hbuildStops (by decide))
    refine ⟨_, _, _, _, _, _, ⟨hversion.major_le, ?_, stops_cons (by decide)⟩, rfl,
      ⟨hversion.minor_le, rfl, stops_cons (by decide)⟩, rfl, ⟨hversion.patch_le, rfl, hpatchStops⟩,
      ⟨hversion.preRelease, rfl, ?_⟩, hversion.build, (List.append_nil _).symm, ?_⟩
    · simp [textChars]
    · split
      · exact hbuildStops (by decide)
      · exact hbuildStops (by decide)
    · split
      · exact stops_nil _
      · exact stops_nil _

/-- A text is read exactly if it is one of the grammar. -/
theorem parse_isOk_iff (text : String) : (parse text).isOk ↔ IsSpelling text.toList := by
  rw [isSpelling_iff]
  constructor
  · intro hok
    cases hparse : parse text with
    | error fault => simp [hparse, Except.isOk, Except.toBool] at hok
    | ok version => exact ⟨version, parseChars_eq_ok_iff.1 hparse⟩
  · rintro ⟨version, hversion⟩
    rw [parse, parseChars_eq_ok_iff.2 hversion]
    rfl

/-- What was read is printed as the text that it was read from. -/
theorem parse_eq_ok_iff {text : String} {version : Version} :
    parse text = .ok version ↔ version.WellFormed ∧ version.text = text := by
  rw [parse, parseChars_eq_ok_iff, Version.text, ← String.ofList_inj, String.ofList_toList]
  exact and_congr_right fun _ => eq_comm

/-! ## Characters of a spelling -/

theorem not_isBlank_of_isBodyChar {c : Char} (hc : isBodyChar c) : ¬isBlank c := by
  have hcode : 0x2D ≤ c.toNat ∧ c.toNat ≤ 0x7A := by
    simp only [isBodyChar_iff, InIdentifier, Char.le_def, UInt32.le_iff_toNat_le] at hc
    rcases hc with (⟨hlow, hhigh⟩ | ⟨hlow, hhigh⟩ | ⟨hlow, hhigh⟩ | rfl) | rfl
    · exact ⟨le_trans (by decide) hlow, le_trans hhigh (by decide)⟩
    · exact ⟨le_trans (by decide) hlow, le_trans hhigh (by decide)⟩
    · exact ⟨le_trans (by decide) hlow, le_trans hhigh (by decide)⟩
    · decide
    · decide
  simp only [isBlank, Bool.or_eq_true, Bool.and_eq_true, decide_eq_true_eq, beq_iff_eq]
  omega

theorem isBodyChar_of_isDigit {c : Char} (hc : isDigit c) : isBodyChar c := by
  simp [isBodyChar, isIdentifierChar, hc]

theorem not_isBlank_of_mem_marked {mark : Char} (hmark : ¬isBlank mark) {part : Part}
    {identifiers : List String}
    (hidentifiers : ∀ identifier ∈ identifiers, IsIdentifier part identifier.toList) :
    ∀ c ∈ marked mark identifiers, ¬isBlank c := by
  rw [marked]
  split
  · simp
  · rw [List.forall_mem_cons]
    have hbody := isBodyChar_of_mem_dottedChars fun _ hmem => (hidentifiers _ hmem).chars
    exact ⟨hmark, fun c hc => not_isBlank_of_isBodyChar (hbody c hc)⟩

theorem IsSpelling.not_isBlank {text : List Char} (htext : IsSpelling text) :
    ∀ c ∈ text, ¬isBlank c := by
  obtain ⟨version, hversion, rfl⟩ := isSpelling_iff.1 htext
  have hdigits (value : Nat) : ∀ c ∈ digits value, ¬isBlank c := fun c hc =>
    not_isBlank_of_isBodyChar (isBodyChar_of_isDigit ((digits_isNumeral value).digits c hc))
  have hpreRelease :=
    not_isBlank_of_mem_marked (by decide : ¬isBlank '-') hversion.preRelease
  have hbuild := not_isBlank_of_mem_marked (by decide : ¬isBlank '+') hversion.build
  have hdot : ¬isBlank '.' := by decide
  intro c hc
  simp only [textChars, List.mem_append, List.mem_cons] at hc
  obtain (((hc | rfl | hc) | rfl | hc) | hc) | hc := hc
  · exact hdigits _ c hc
  · exact hdot
  · exact hdigits _ c hc
  · exact hdot
  · exact hdigits _ c hc
  · exact hpreRelease c hc
  · exact hbuild c hc

theorem IsSpelling.head_isDigit {text : List Char} (htext : IsSpelling text) :
    ∃ c rest, text = c :: rest ∧ isDigit c := by
  obtain ⟨version, -, rfl⟩ := isSpelling_iff.1 htext
  have hnumeral := digits_isNumeral version.major
  obtain ⟨c, rest, hmajor⟩ := List.exists_cons_of_ne_nil hnumeral.nonempty
  have hdigit : isDigit c := hnumeral.digits c (by simp [hmajor])
  rw [textChars, hmajor]
  exact ⟨c, _, rfl, hdigit⟩

end ArtifactRelease.Version

namespace ArtifactRelease.ReleaseTag

open ArtifactRelease.Text

variable {line text : String}

/-! ## Spellings of a tag -/

/-- The line is the text, with or without a `v` in front, between blanks. -/
def Spells (line text : String) : Prop :=
  ∃ before mark after, (∀ c ∈ before, isBlank c) ∧ (∀ c ∈ after, isBlank c) ∧
    (mark = [] ∨ mark = ['v']) ∧ line.toList = before ++ (mark ++ text.toList) ++ after

theorem exists_mark (tag : String) :
    ∃ mark, (mark = [] ∨ mark = ['v']) ∧ tag.toList = mark ++ (bare tag).toList := by
  rw [bare]
  split
  · next rest htag => exact ⟨['v'], .inr rfl, by simp [htag]⟩
  · exact ⟨[], .inl rfl, rfl⟩

theorem bare_of_mark {mark : List Char} (hmark : mark = [] ∨ mark = ['v'])
    (htext : Version.IsSpelling text.toList) :
    bare (String.ofList (mark ++ text.toList)) = text := by
  rcases hmark with rfl | rfl
  · obtain ⟨c, rest, hchars, hdigit⟩ := htext.head_isDigit
    rw [bare]
    split
    · next hv =>
        simp only [List.nil_append, String.toList_ofList, hchars, List.cons.injEq] at hv
        rw [hv.1] at hdigit
        exact absurd hdigit (by decide)
    · simp
  · simp [bare]

/-- The lines that spell the text of a version are those that leave it, once their blanks and their
`v` are gone. -/
theorem spells_iff (htext : Version.IsSpelling text.toList) :
    Spells line text ↔ bare (trimmed line) = text := by
  constructor
  · rintro ⟨before, mark, after, hbefore, hafter, hmark, hline⟩
    have hvisible : ∀ c ∈ mark ++ text.toList, ¬isBlank c := by
      intro c hc
      rcases List.mem_append.1 hc with hc | hc
      · rcases hmark with rfl | rfl
        · cases hc
        · rw [List.mem_singleton.1 hc]
          decide
      · exact htext.not_isBlank c hc
    have hunpadded : Unpadded (mark ++ text.toList) :=
      ⟨fun c hc => hvisible c (List.mem_of_mem_head? hc),
        fun c hc => hvisible c (List.mem_of_mem_getLast? hc)⟩
    rw [trimmed, hline, trim_padded hbefore hafter hunpadded, bare_of_mark hmark htext]
  · rintro rfl
    obtain ⟨before, after, hbefore, hafter, hline⟩ := exists_padding line.toList
    obtain ⟨mark, hmark, htrimmed⟩ := exists_mark (trimmed line)
    refine ⟨before, mark, after, hbefore, hafter, hmark, ?_⟩
    rw [← htrimmed, trimmed, String.toList_ofList]
    exact hline

/-! ## Parsing a tag -/

theorem parse_of_ok {tag : String} {version : Version}
    (hversion : Version.parse (bare (trimmed tag)) = .ok version) :
    parse tag = .ok ⟨trimmed tag, version⟩ := by
  unfold parse
  simp only [hversion]

theorem parse_of_error {tag : String} {reason : Version.Fault}
    (hreason : Version.parse (bare (trimmed tag)) = .error reason) :
    parse tag = .error (.invalidVersion (trimmed tag) reason) := by
  unfold parse
  simp only [hreason]

/-- A tag is accepted exactly if what is left of it without its blanks and without one `v` in front
is the text of a semantic version, that is if it spells such a text.  The version is then printed as
just that text; otherwise the message quotes the tag without its blanks. -/
theorem parse_iff_isSpelling (tag : String) :
    ((parse tag).isOk ↔ Version.IsSpelling (bare (trimmed tag)).toList) ∧
    ((parse tag).isOk ↔ ∃ text : String, Version.IsSpelling text.toList ∧ Spells tag text) ∧
    match parse tag with
    | .ok release =>
      release.raw = trimmed tag ∧ release.version.WellFormed ∧
        release.version.text = bare (trimmed tag)
    | .error fault =>
      ∃ reason : Version.Fault, fault = .invalidVersion (trimmed tag) reason ∧
        fault.message =
          "Tag '" ++ trimmed tag ++ "' is not a valid semantic version: " ++ reason.message := by
  have hspells : (∃ text : String, Version.IsSpelling text.toList ∧ Spells tag text) ↔
      Version.IsSpelling (bare (trimmed tag)).toList := by
    constructor
    · rintro ⟨text, htext, hspells⟩
      rwa [(spells_iff htext).1 hspells]
    · intro htext
      exact ⟨_, htext, (spells_iff htext).2 rfl⟩
  rw [hspells, ← Version.parse_isOk_iff]
  cases hparse : Version.parse (bare (trimmed tag)) with
  | ok version =>
      rw [parse_of_ok hparse]
      exact ⟨Iff.rfl, Iff.rfl, rfl, Version.parse_eq_ok_iff.1 hparse⟩
  | error reason =>
      rw [parse_of_error hparse]
      exact ⟨Iff.rfl, Iff.rfl, reason, rfl, rfl⟩

end ArtifactRelease.ReleaseTag
