import ArtifactRelease.Json.Record
import ArtifactRelease.Proofs.Digits
import ArtifactRelease.Proofs.JsonSpelling
import Mathlib.Data.List.TakeWhile

/-!
# Reading spelled values

A reader that is right about a value takes every spelling of it for that value, and stops behind
it.  The readers of texts, numbers and containers are right in this sense, and so is the reader of
values as far as containers nest no deeper than it allows.  Doubles are left out: the text of one
need not read back as the same double.
-/

namespace ArtifactRelease.Json

open ArtifactRelease.Number

variable {α : Type}

/-! ## Blanks and what follows a value -/

theorem skipSpace_gap {gap : List Char} (hgap : Gap gap) {c : Char} (hc : isSpace c = false)
    (text : List Char) : skipSpace (gap ++ c :: text) = c :: text := by
  rw [skipSpace, List.dropWhile_append_of_pos hgap, List.dropWhile_cons_of_neg (by simp [hc])]

theorem skipSpace_of_gap {gap : List Char} (hgap : Gap gap) : skipSpace gap = [] :=
  List.dropWhile_eq_nil_iff.2 hgap

/-- What may follow a value: the end, a blank, a comma or a closing bracket. -/
def Bounded (rest : List Char) : Prop :=
  ∀ c ∈ rest.head?, isSpace c ∨ c ∈ [',', ']', '}']

theorem Bounded.gap {gap rest : List Char} (hgap : Gap gap) (hrest : Bounded rest) :
    Bounded (gap ++ rest) := by
  cases gap with
  | nil => exact hrest
  | cons c more =>
      rintro _ ⟨rfl⟩
      exact .inl (hgap c List.mem_cons_self)

theorem Joined.bounded {Item : α → List Char → Prop} {items : List α} {body rest : List Char}
    (hbody : Joined Item false items body) (hrest : Bounded rest) : Bounded (body ++ rest) := by
  cases hbody with
  | done hgap => exact hrest.gap hgap
  | item hlead =>
      cases hlead with
      | later hbefore =>
          simp only [List.append_assoc]
          exact Bounded.gap hbefore (by simp [Bounded])

/-- Every item but the first takes a comma. -/
theorem Joined.length_le {Item : α → List Char → Prop} {first : Bool} {items : List α}
    {body : List Char} (hbody : Joined Item first items body) :
    items.length ≤ body.length + first.toNat := by
  induction hbody with
  | done => simp
  | item hlead htext hlater ih => cases hlead <;> simp at ih ⊢ <;> omega

theorem Joined.length_lt {Item : α → List Char → Prop} {items : List α} {body : List Char}
    (hbody : Joined Item true items body) (close : Char) (rest : List Char) :
    items.length < (body ++ close :: rest).length + 1 := by
  have hlength := hbody.length_le
  rw [Bool.toNat_true] at hlength
  rw [List.length_append, List.length_cons]
  omega

/-! ## Strings -/

theorem hexValue?_digitChar {value : Nat} (hvalue : value < 16) :
    hexValue? (Nat.digitChar value) = some value := by
  revert value
  decide

theorem readHex_low {code : Nat} (hcode : code < 0x20) (rest : List Char) :
    readHex ('0' :: '0' :: Nat.digitChar (code / 16) :: Nat.digitChar (code % 16) :: rest) =
      .ok (code, rest) := by
  have hzero : hexValue? '0' = some 0 := rfl
  have hhigh := hexValue?_digitChar (show code / 16 < 16 by omega)
  have hlow := hexValue?_digitChar (show code % 16 < 16 by omega)
  simp only [readHex, hzero, hhigh, hlow, Except.ok.injEq, Prod.mk.injEq, and_true]
  omega

/-- Each character is one round, whether it is escaped or not. -/
theorem readStringBody_escapeChar (fuel : Nat) (taken : List Char) (c : Char)
    (rest : List Char) :
    readStringBody (fuel + 1) taken (escapeChar c ++ rest) =
      readStringBody fuel (c :: taken) rest := by
  have hcode (code : Nat) (hc : c.toNat = code) : Char.ofNat code = c := by
    rw [← hc, Char.ofNat_toNat]
  rw [escapeChar]
  by_cases hquote : c = '"'
  · simp [readStringBody, readEscape, hquote]
  by_cases hbackslash : c = '\\'
  · simp [readStringBody, readEscape, hbackslash]
  rw [if_neg hquote, if_neg hbackslash]
  split
  · next hback =>
      rw [← hcode 0x08 hback]
      simp [readStringBody, readEscape]
  split
  · next hfeed =>
      rw [← hcode 0x0C hfeed]
      simp [readStringBody, readEscape]
  split
  · next hline => simp [readStringBody, readEscape, hline]
  split
  · next hreturn => simp [readStringBody, readEscape, hreturn]
  split
  · next htab => simp [readStringBody, readEscape, htab]
  split
  · next hcontrol =>
      have hescape : readEscape ('u' :: '0' :: '0' :: Nat.digitChar (c.toNat / 16) ::
          Nat.digitChar (c.toNat % 16) :: rest) = .ok (c, rest) := by
        have hlow : ¬ (0xDC00 ≤ c.toNat ∧ c.toNat ≤ 0xDFFF) := by omega
        have hhigh : ¬ (0xD800 ≤ c.toNat ∧ c.toNat ≤ 0xDBFF) := by omega
        simp [readEscape, readHex_low hcontrol, hlow, hhigh, bind, Except.bind, pure, Except.pure]
      simp [readStringBody, hescape]
  · next hcontrol => simp [readStringBody, hquote, hbackslash, hcontrol]

theorem length_le_flatMap_escapeChar (text : List Char) :
    text.length ≤ (text.flatMap escapeChar).length := by
  induction text with
  | nil => exact Nat.le_refl 0
  | cons c text ih =>
      have hc : 0 < (escapeChar c).length := by
        rw [escapeChar]
        repeat' split
        all_goals exact Nat.succ_pos _
      rw [List.flatMap_cons, List.length_append, List.length_cons]
      omega

theorem readStringBody_flatMap {text : List Char} {fuel : Nat} (hfuel : text.length < fuel)
    (taken rest : List Char) :
    readStringBody fuel taken (text.flatMap escapeChar ++ '"' :: rest) =
      .ok (String.ofList (taken.reverse ++ text), rest) := by
  induction fuel generalizing text taken with
  | zero => cases hfuel
  | succ fuel ih =>
      cases text with
      | nil => simp [readStringBody]
      | cons c text =>
          rw [List.flatMap_cons, List.append_assoc, readStringBody_escapeChar,
            ih (Nat.lt_of_succ_lt_succ hfuel)]
          simp

theorem stringText_append (text : String) (rest : List Char) :
    stringText text ++ rest = '"' :: (text.toList.flatMap escapeChar ++ '"' :: rest) := by
  simp [stringText]

theorem readString_escaped (text : String) (rest : List Char) :
    readString (text.toList.flatMap escapeChar ++ '"' :: rest) = .ok (text, rest) := by
  have hlength := length_le_flatMap_escapeChar text.toList
  have hfuel : text.toList.length < (text.toList.flatMap escapeChar ++ '"' :: rest).length := by
    rw [List.length_append, List.length_cons]
    omega
  rw [readString, readStringBody_flatMap hfuel]
  simp

/-! ## Integers -/

/-- What ends a number that is an integer. -/
theorem Bounded.endsInteger {c : Char} {rest : List Char} (hrest : Bounded (c :: rest)) :
    isDigit c = false ∧ c ≠ '.' ∧ c ≠ 'e' ∧ c ≠ 'E' := by
  have hc := hrest c rfl
  simp only [isSpace, Bool.or_eq_true, decide_eq_true_eq, List.mem_cons, List.not_mem_nil,
    or_false] at hc
  rcases hc with (((rfl | rfl) | rfl) | rfl) | rfl | rfl | rfl <;> decide

theorem takeWhile_isDigit_of_bounded {rest : List Char} (hrest : Bounded rest) :
    rest.takeWhile isDigit = [] ∧ rest.dropWhile isDigit = rest := by
  cases rest with
  | nil => exact ⟨rfl, rfl⟩
  | cons c later =>
      have hc := hrest.endsInteger.1
      exact ⟨List.takeWhile_cons_of_neg (by simp [hc]), List.dropWhile_cons_of_neg (by simp [hc])⟩

def withDigits (value : Nat) (shown : List Char) : Nat :=
  shown.foldl (fun value digit => value * 10 + (digit.toNat - 0x30)) value

theorem le_withDigits (value : Nat) (shown : List Char) : value ≤ withDigits value shown := by
  induction shown generalizing value with
  | nil => exact Nat.le_refl value
  | cons c shown ih =>
      have hnext : value ≤ value * 10 + (c.toNat - 0x30) := by omega
      exact Nat.le_trans hnext (ih _)

/-- Digits that come to no more than fits are all taken. -/
theorem takeDigits_append {shown rest : List Char} (hdigits : ∀ c ∈ shown, isDigit c)
    (hrest : Bounded rest) {significand : Nat} (taken : Nat)
    (hfits : withDigits significand shown ≤ maxSignificand) :
    takeDigits significand taken (shown ++ rest) =
      (withDigits significand shown, taken + shown.length, rest) := by
  induction shown generalizing significand taken with
  | nil =>
      cases rest with
      | nil => rfl
      | cons c later =>
          have hc := hrest.endsInteger.1
          simp [takeDigits, withDigits, hc]
  | cons c shown ih =>
      have hc : isDigit c := hdigits c List.mem_cons_self
      have hnext : significand * 10 + (c.toNat - 0x30) ≤ maxSignificand :=
        Nat.le_trans (le_withDigits _ shown) hfits
      rw [List.cons_append, takeDigits, if_pos hc, if_pos hnext,
        ih (fun d hd => hdigits d (List.mem_cons_of_mem _ hd)) _ hfits, List.length_cons,
        Nat.add_assoc, Nat.add_comm 1]
      rfl

def signed (negative : Bool) (value : Nat) : Numeral :=
  if negative then
    if value = 0 ∨ 9223372036854775808 < value then
      .double { (Binary64.ofNat? value).getD Binary64.zero with negative := true }
    else .integer (-(value : Int))
  else .integer value

theorem readNumeral_of_taken {negative : Bool} {first : Char} {text rest : List Char}
    {value : Nat} (count : Nat) (hdigit : isDigit first) (hrest : Bounded rest)
    (hzero : first = '0' → text.head?.map isDigit ≠ some true)
    (htaken : (if first = '0' then (0, 0, text) else takeDigits 0 0 (first :: text)) =
      (value, count, rest)) :
    readNumeral negative (first :: text) = .ok (signed negative value, rest) := by
  obtain ⟨hnone, hall⟩ := takeWhile_isDigit_of_bounded hrest
  rw [readNumeral, if_neg (not_and.2 hzero), if_pos hdigit]
  simp only [htaken, hnone, hall]
  cases rest with
  | nil =>
      cases negative <;> simp [signed]
      split_ifs <;> rfl
  | cons c later =>
      obtain ⟨-, hpoint, hlower, hupper⟩ := hrest.endsInteger
      cases negative <;> simp [signed, hpoint, hlower, hupper]
      split_ifs <;> rfl

theorem readNumeral_digits (negative : Bool) {value : Nat} (hvalue : value ≤ maxSignificand)
    {rest : List Char} (hrest : Bounded rest) :
    readNumeral negative (digits value ++ rest) = .ok (signed negative value, rest) := by
  have hnumeral := digits_isNumeral value
  obtain ⟨first, later, hdigits⟩ := List.exists_cons_of_ne_nil hnumeral.nonempty
  have hfirst : isDigit first := hnumeral.digits first (by simp [hdigits])
  rw [hdigits, List.cons_append]
  by_cases hzero : first = '0'
  · -- zero is the one number whose digit is not counted
    have hshown := hnumeral.no_leading_zero (by simp [hdigits, hzero])
    have hvalue : value = 0 := digits_injective (hshown.trans digits_zero.symm)
    obtain rfl : later = [] := (List.cons.inj (hdigits.symm.trans hshown)).2
    refine readNumeral_of_taken 0 hfirst hrest (fun _ => ?_) (by rw [if_pos hzero, hvalue]; rfl)
    cases rest with
    | nil => simp
    | cons c more => simp [hrest.endsInteger.1]
  · have hfits : withDigits 0 (digits value) = value := ofDigits_digits value
    refine readNumeral_of_taken (0 + (digits value).length) hfirst hrest
      (fun hfirst => absurd hfirst hzero) ?_
    rw [if_neg hzero, ← List.cons_append, ← hdigits,
      takeDigits_append hnumeral.digits hrest 0 (hfits.symm ▸ hvalue), hfits]

/-! ## Readers that are right about a value -/

/-- The reader takes every spelling of the value for `result`, and stops behind it. -/
def Reads (reader : Reader α) (value : Value) (result : α) : Prop :=
  ∀ gap text rest, Gap gap → Spells value text → Bounded rest →
    reader (gap ++ text ++ rest) = .ok (result, rest)

/-- The first character of every spelling of a value that is not a number. -/
def Value.opening? : Value → Option Char
  | null => some 'n'
  | bool true => some 't'
  | bool false => some 'f'
  | string _ => some '"'
  | array _ => some '['
  | object _ => some '{'
  | _ => none

theorem Spells.opening {value : Value} {text : List Char} (htext : Spells value text) {c : Char}
    (hc : value.opening? = some c) : ∃ later, text = c :: later := by
  cases htext <;> cases hc <;> exact ⟨_, rfl⟩

theorem Value.opening?_isSpace {value : Value} {c : Char} (hc : value.opening? = some c) :
    isSpace c = false := by
  cases value with
  | bool value => cases value <;> cases hc <;> rfl
  | _ => cases hc <;> rfl

/-- Behind blanks, a spelling starts with its first character. -/
theorem skipSpace_spelling {value : Value} {gap text : List Char} (hgap : Gap gap)
    (htext : Spells value text) {c : Char} (hc : value.opening? = some c) (rest : List Char) :
    ∃ later, text = c :: later ∧ skipSpace (gap ++ text ++ rest) = c :: (later ++ rest) := by
  obtain ⟨later, rfl⟩ := htext.opening hc
  refine ⟨later, rfl, ?_⟩
  rw [List.append_assoc, List.cons_append, skipSpace_gap hgap (Value.opening?_isSpace hc)]

theorem readName_append (name rest : List Char) : readName name (name ++ rest) = .ok rest := by
  induction name with
  | nil => cases rest <;> rfl
  | cons c name ih => simpa [readName] using ih

theorem reads_readText (wanted text : String) : Reads (readText wanted) (.string text) text := by
  intro gap spelling rest hgap htext hrest
  cases htext
  have hskip := skipSpace_gap hgap (show isSpace '"' = false by rfl)
    (text.toList.flatMap escapeChar ++ '"' :: rest)
  rw [List.append_assoc, stringText_append, readText, hskip]
  exact readString_escaped text rest

theorem reads_readBool (value : Bool) : Reads readBool (.bool value) value := by
  intro gap text rest hgap htext hrest
  cases htext with
  | yes =>
      have hskip : skipSpace (gap ++ ("true".toList ++ rest)) = 't' :: ("rue".toList ++ rest) :=
        skipSpace_gap hgap rfl _
      rw [List.append_assoc, readBool, hskip]
      simp only [readName_append]
      rfl
  | no =>
      have hskip : skipSpace (gap ++ ("false".toList ++ rest)) = 'f' :: ("alse".toList ++ rest) :=
        skipSpace_gap hgap rfl _
      rw [List.append_assoc, readBool, hskip]
      simp only [readName_append]
      rfl

theorem Reads.optional {reader : Reader α} {value : Value} {result : α}
    (hreads : Reads reader value result) {c : Char} (hc : value.opening? = some c)
    (hnull : c ≠ 'n') : Reads (readOptional reader) value (some result) := by
  intro gap text rest hgap htext hrest
  obtain ⟨later, rfl, hskip⟩ := skipSpace_spelling hgap htext hc rest
  have hread := hreads [] (c :: later) rest gap_nil htext hrest
  rw [List.nil_append, List.cons_append] at hread
  rw [readOptional, hskip]
  simp [hnull, hread, bind, Except.bind, pure, Except.pure]

/-- All blanks around a spelling are passed over. -/
theorem Reads.readAll_spelling {reader : Reader α} {value : Value} {result : α}
    (hreads : Reads reader value result) {before text after : List Char} (hbefore : Gap before)
    (htext : Spells value text) (hafter : Gap after) :
    readAll reader (String.ofList (before ++ text ++ after)) = .ok result := by
  have hend : Bounded [] := by simp [Bounded]
  have hbounded : Bounded after := List.append_nil after ▸ hend.gap hafter
  rw [readAll, String.toList_ofList, hreads _ _ _ hbefore htext hbounded]
  simp [bind, Except.bind, skipSpace_of_gap hafter, pure, Except.pure]

theorem Reads.readAll_compact {reader : Reader α} {value : Value} {result : α}
    (hreads : Reads reader value result) : readAll reader value.compact = .ok result := by
  simpa [Value.compact] using hreads.readAll_spelling gap_nil (spells_compactChars value) gap_nil

theorem Reads.readAll_pretty {reader : Reader α} {value : Value} {result : α}
    (hreads : Reads reader value result) : readAll reader value.pretty = .ok result := by
  simpa [Value.pretty] using hreads.readAll_spelling gap_nil (spells_prettyChars value 0) gap_nil

/-! ## Containers -/

theorem nextItem_of_lead {first : Bool} {lead : List Char} (hlead : Lead first lead) {c : Char}
    (hspace : isSpace c = false) (hclose : c ≠ ']') (text : List Char) :
    nextItem first (lead ++ c :: text) = .ok (true, c :: text) := by
  cases hlead with
  | first hgap => simp [nextItem, skipSpace_gap hgap hspace]
  | later hbefore hafter =>
      rw [List.append_assoc, List.cons_append, nextItem, skipSpace_gap hbefore rfl]
      simp [skipSpace_gap hafter hspace, hclose]

theorem nextItem_of_gap {gap : List Char} (hgap : Gap gap) (first : Bool) (rest : List Char) :
    nextItem first (gap ++ ']' :: rest) = .ok (false, ']' :: rest) := by
  rw [nextItem, skipSpace_gap hgap rfl]
  rfl

theorem nextKey_of_lead {first : Bool} {lead : List Char} (hlead : Lead first lead)
    (text : List Char) : nextKey first (lead ++ '"' :: text) = .ok (true, text) := by
  have hquote : isSpace '"' = false := rfl
  cases hlead with
  | first hgap => simp [nextKey, skipSpace_gap hgap hquote]
  | later hbefore hafter =>
      rw [List.append_assoc, List.cons_append, nextKey, skipSpace_gap hbefore rfl]
      simp [skipSpace_gap hafter hquote]

theorem nextKey_of_gap {gap : List Char} (hgap : Gap gap) (first : Bool) (rest : List Char) :
    nextKey first (gap ++ '}' :: rest) = .ok (false, '}' :: rest) := by
  rw [nextKey, skipSpace_gap hgap rfl]
  rfl

theorem readColon_gap {gap : List Char} (hgap : Gap gap) (rest : List Char) :
    readColon (gap ++ ':' :: rest) = .ok rest := by
  rw [readColon, skipSpace_gap hgap rfl]
  rfl

/-- What a spelled field is read as: its key, and from behind the colon a spelling of its value. -/
theorem SpellsField.read {field : String × Value} {text : List Char}
    (htext : SpellsField field text) {first : Bool} {lead : List Char} (hlead : Lead first lead)
    (rest : List Char) :
    ∃ fromKey fromColon gap spelling, Gap gap ∧ Spells field.2 spelling ∧
      nextKey first (lead ++ text ++ rest) = .ok (true, fromKey) ∧
      readString fromKey = .ok (field.1, fromColon) ∧
      readColon fromColon = .ok (gap ++ spelling ++ rest) := by
  cases htext with
  | @mk key value before after spelling hbefore hafter hvalue =>
      refine ⟨_, _, after, spelling, hafter, hvalue, ?_, readString_escaped key _,
        readColon_gap hbefore _⟩
      rw [← nextKey_of_lead hlead]
      simp [stringText_append]

/-! ## Values that are read back -/

/-- The values that are read back as they are: integers fit in 64 bits, there are no doubles, and
the keys of an object are distinct. -/
inductive Value.Regular : Value → Prop
  | null : Regular null
  | bool (value : Bool) : Regular (bool value)
  | integer {value : Int} (hlow : -9223372036854775808 ≤ value)
      (hhigh : value ≤ 18446744073709551615) : Regular (integer value)
  | string (text : String) : Regular (string text)
  | array {items : List Value} (hitems : ∀ item ∈ items, Regular item) : Regular (array items)
  | object {fields : List (String × Value)} (hkeys : (fields.map Prod.fst).Nodup)
      (hfields : ∀ field ∈ fields, Regular field.2) : Regular (object fields)

mutual

def Value.nesting : Value → Nat
  | .array items => deepestItem items + 1
  | .object fields => deepestField fields + 1
  | _ => 0

def deepestItem : List Value → Nat
  | [] => 0
  | item :: later => max item.nesting (deepestItem later)

def deepestField : List (String × Value) → Nat
  | [] => 0
  | (_, value) :: later => max value.nesting (deepestField later)

end

theorem nesting_le_deepestItem {items : List Value} {item : Value} (hitem : item ∈ items) :
    item.nesting ≤ deepestItem items := by
  induction items with
  | nil => cases hitem
  | cons first later ih =>
      rw [deepestItem]
      rcases List.mem_cons.1 hitem with rfl | hitem
      · exact Nat.le_max_left _ _
      · exact Nat.le_trans (ih hitem) (Nat.le_max_right _ _)

theorem nesting_le_deepestField {fields : List (String × Value)} {field : String × Value}
    (hfield : field ∈ fields) : field.2.nesting ≤ deepestField fields := by
  induction fields with
  | nil => cases hfield
  | cons first later ih =>
      rw [deepestField]
      rcases List.mem_cons.1 hfield with rfl | hfield
      · exact Nat.le_max_left _ _
      · exact Nat.le_trans (ih hfield) (Nat.le_max_right _ _)

/-- The sign or the first digit of an integer. -/
theorem integerText_eq_cons (value : Int) :
    ∃ c later, integerText value = c :: later ∧ (c = '-' ∨ isDigit c) := by
  rw [integerText]
  split_ifs
  · exact ⟨_, _, rfl, .inl rfl⟩
  · have hnumeral := digits_isNumeral value.natAbs
    obtain ⟨c, later, hdigits⟩ := List.exists_cons_of_ne_nil hnumeral.nonempty
    exact ⟨c, later, hdigits, .inr (hnumeral.digits c (by simp [hdigits]))⟩

/-- What no number starts with. -/
theorem startsNumber {c : Char} (hc : c = '-' ∨ isDigit c) :
    isSpace c = false ∧ c ≠ ']' ∧ c ≠ '[' ∧ c ≠ '{' := by
  rcases hc with rfl | hc
  · decide
  · obtain ⟨value, hvalue, rfl⟩ := exists_digitChar hc
    revert value
    decide

theorem Spells.starts {value : Value} {text : List Char} (htext : Spells value text)
    (hregular : value.Regular) : ∃ c later, text = c :: later ∧ isSpace c = false ∧ c ≠ ']' := by
  cases htext with
  | double number => cases hregular
  | integer value =>
      obtain ⟨c, later, hshown, hc⟩ := integerText_eq_cons value
      obtain ⟨hspace, hclose, -⟩ := startsNumber hc
      exact ⟨c, later, hshown, hspace, hclose⟩
  | _ => exact ⟨_, _, rfl, rfl, by decide⟩

/-- An item behind its lead is handed to the reader of items. -/
theorem readItems_item {reader : Reader Value} {item : Value} (hregular : item.Regular)
    {taken : List Value} {lead text : List Char} (hlead : Lead taken.isEmpty lead)
    (htext : Spells item text) (fuel : Nat) (rest : List Char) :
    readItems reader (fuel + 1) taken (lead ++ text ++ rest) =
      (reader (text ++ rest)).bind fun (value, rest) =>
        readItems reader fuel (value :: taken) rest := by
  obtain ⟨c, more, rfl, hspace, hclose⟩ := htext.starts hregular
  rw [List.append_assoc, List.cons_append, readItems, nextItem_of_lead hlead hspace hclose]
  rfl

/-- The items of a list are read up to its bracket. -/
theorem readItems_joined {reader : Reader Value} {items : List Value}
    (hregular : ∀ item ∈ items, item.Regular)
    (hreads : ∀ item ∈ items, Reads reader item item) (taken : List Value) {body : List Char}
    (hbody : Joined Spells taken.isEmpty items body) {fuel : Nat} (hfuel : items.length < fuel)
    (rest : List Char) :
    readItems reader fuel taken (body ++ ']' :: rest) = .ok (taken.reverse ++ items, rest) := by
  induction fuel generalizing items taken body with
  | zero => cases hfuel
  | succ fuel ih =>
      cases hbody with
      | done hgap =>
          rw [readItems, nextItem_of_gap hgap, List.append_nil]
          rfl
      | @item _ item later lead text body hlead htext hlater =>
          obtain ⟨hitem, hitems⟩ := List.forall_mem_cons.1 hregular
          obtain ⟨hread, hreads⟩ := List.forall_mem_cons.1 hreads
          have hvalue := hread [] text (body ++ ']' :: rest) gap_nil htext
            (hlater.bounded (by simp [Bounded]))
          have hthen := ih hitems hreads (item :: taken) hlater (Nat.lt_of_succ_lt_succ hfuel)
          rw [List.nil_append] at hvalue
          rw [List.append_assoc, readItems_item hitem hlead htext, hvalue]
          simpa [Except.bind] using hthen

/-- A key that is not there yet goes last. -/
theorem setField_of_not_mem {key : String} {taken : List (String × Value)}
    (hkey : key ∉ taken.map Prod.fst) (value : Value) :
    Value.setField key value taken = taken ++ [(key, value)] := by
  induction taken with
  | nil => rfl
  | cons field later ih =>
      obtain ⟨hfirst, hlater⟩ : key ≠ field.1 ∧ key ∉ later.map Prod.fst := by simpa using hkey
      rw [Value.setField, if_neg (Ne.symm hfirst), ih hlater, List.cons_append]

/-- The value of a field behind its lead is handed to the reader of values. -/
theorem readFields_field (reader : Reader Value) {field : String × Value} {first : Bool}
    {lead text : List Char} (hlead : Lead first lead) (htext : SpellsField field text)
    (fuel : Nat) (taken : List (String × Value)) (rest : List Char) :
    ∃ gap spelling, Gap gap ∧ Spells field.2 spelling ∧
      readFields reader (fuel + 1) first taken (lead ++ text ++ rest) =
        (reader (gap ++ spelling ++ rest)).bind fun (value, rest) =>
          readFields reader fuel false (Value.setField field.1 value taken) rest := by
  obtain ⟨fromKey, fromColon, gap, spelling, hgap, hspelling, hnext, hkey, hcolon⟩ :=
    htext.read hlead rest
  refine ⟨gap, spelling, hgap, hspelling, ?_⟩
  rw [readFields, hnext]
  simp only [bind, Except.bind, if_true, hkey, hcolon]

/-- The fields of an object are read up to its brace. -/
theorem readFields_joined {reader : Reader Value} {fields : List (String × Value)}
    (hreads : ∀ field ∈ fields, Reads reader field.2 field.2) (taken : List (String × Value))
    (hkeys : ((taken ++ fields).map Prod.fst).Nodup) {first : Bool} {body : List Char}
    (hbody : Joined SpellsField first fields body) {fuel : Nat} (hfuel : fields.length < fuel)
    (rest : List Char) :
    readFields reader fuel first taken (body ++ '}' :: rest) = .ok (taken ++ fields, rest) := by
  induction fuel generalizing fields taken first body with
  | zero => cases hfuel
  | succ fuel ih =>
      cases hbody with
      | done hgap =>
          rw [readFields, nextKey_of_gap hgap, List.append_nil]
          rfl
      | @item _ field later lead text body hlead htext hlater =>
          obtain ⟨hread, hreads⟩ := List.forall_mem_cons.1 hreads
          obtain ⟨gap, spelling, hgap, hspelling, hstep⟩ :=
            readFields_field reader hlead htext fuel taken (body ++ '}' :: rest)
          have hvalue := hread gap spelling (body ++ '}' :: rest) hgap hspelling
            (hlater.bounded (by simp [Bounded]))
          have hnew : field.1 ∉ taken.map Prod.fst := by
            rw [List.map_append, List.nodup_append] at hkeys
            intro hmem
            exact hkeys.2.2 _ hmem _ (by simp) rfl
          have hthen := ih hreads (taken ++ [field]) (by simpa using hkeys) hlater
            (Nat.lt_of_succ_lt_succ hfuel)
          rw [List.append_assoc, hstep, hvalue]
          simpa [Except.bind, setField_of_not_mem hnew] using hthen

/-- A scalar is read from its first character on. -/
theorem readValue_scalar {text later : List Char} {c : Char} (hskip : skipSpace text = c :: later)
    (hlist : c ≠ '[') (hobject : c ≠ '{') (depth : Nat) :
    readValue depth text = readScalar c later := by
  rw [readValue, hskip]
  simp

theorem readScalar_digit {c : Char} (hc : isDigit c) (text : List Char) :
    readScalar c text = (readNumeral false (c :: text)).map fun (numeral, rest) =>
      (numeral.value, rest) := by
  unfold readScalar
  split
  case h_6 =>
    rw [if_pos hc]
    cases readNumeral false (c :: text) <;> rfl
  all_goals cases hc

theorem readScalar_integer {value : Int} (hlow : -9223372036854775808 ≤ value)
    (hhigh : value ≤ 18446744073709551615) {c : Char} {later rest : List Char}
    (hshown : integerText value = c :: later) (hrest : Bounded rest) :
    readScalar c (later ++ rest) = .ok (.integer value, rest) := by
  have hfits : value.natAbs ≤ maxSignificand := by
    rw [maxSignificand, UInt64.size]
    omega
  rw [integerText] at hshown
  split_ifs at hshown with hnegative
  · obtain ⟨rfl, rfl⟩ := List.cons.inj hshown
    have hsigned : signed true value.natAbs = .integer value := by
      rw [signed, if_pos rfl, if_neg (by omega), show -(value.natAbs : Int) = value by omega]
    rw [readScalar, readNumeral_digits true hfits hrest, hsigned]
    rfl
  · have hsigned : signed false value.natAbs = .integer value := by
      rw [signed, if_neg Bool.false_ne_true, show (value.natAbs : Int) = value by omega]
    have hread := readNumeral_digits false hfits hrest
    have hc : isDigit c := (digits_isNumeral value.natAbs).digits c (by simp [hshown])
    rw [hshown, hsigned, List.cons_append] at hread
    rw [readScalar_digit hc, hread]
    rfl

theorem reads_null (depth : Nat) : Reads (readValue depth) .null .null := by
  intro gap text rest hgap htext hrest
  cases htext
  have hskip : skipSpace (gap ++ ("null".toList ++ rest)) = 'n' :: ("ull".toList ++ rest) :=
    skipSpace_gap hgap rfl _
  rw [List.append_assoc, readValue_scalar hskip (by decide) (by decide), readScalar,
    readName_append]
  rfl

theorem reads_bool (depth : Nat) (value : Bool) :
    Reads (readValue depth) (.bool value) (.bool value) := by
  intro gap text rest hgap htext hrest
  cases htext with
  | yes =>
      have hskip : skipSpace (gap ++ ("true".toList ++ rest)) = 't' :: ("rue".toList ++ rest) :=
        skipSpace_gap hgap rfl _
      rw [List.append_assoc, readValue_scalar hskip (by decide) (by decide), readScalar,
        readName_append]
      rfl
  | no =>
      have hskip : skipSpace (gap ++ ("false".toList ++ rest)) = 'f' :: ("alse".toList ++ rest) :=
        skipSpace_gap hgap rfl _
      rw [List.append_assoc, readValue_scalar hskip (by decide) (by decide), readScalar,
        readName_append]
      rfl

theorem reads_integer (depth : Nat) {value : Int} (hlow : -9223372036854775808 ≤ value)
    (hhigh : value ≤ 18446744073709551615) :
    Reads (readValue depth) (.integer value) (.integer value) := by
  intro gap text rest hgap htext hrest
  cases htext
  obtain ⟨c, later, hshown, hc⟩ := integerText_eq_cons value
  obtain ⟨hspace, -, hlist, hobject⟩ := startsNumber hc
  have hskip := skipSpace_gap hgap hspace (later ++ rest)
  rw [hshown, List.append_assoc, List.cons_append, readValue_scalar hskip hlist hobject]
  exact readScalar_integer hlow hhigh hshown hrest

theorem reads_string (depth : Nat) (text : String) :
    Reads (readValue depth) (.string text) (.string text) := by
  intro gap spelling rest hgap htext hrest
  cases htext
  have hquote : isSpace '"' = false := rfl
  have hskip := skipSpace_gap hgap hquote (text.toList.flatMap escapeChar ++ '"' :: rest)
  rw [List.append_assoc, stringText_append, readValue_scalar hskip (by decide) (by decide),
    readScalar, readString_escaped]
  rfl

theorem readValue_list {gap : List Char} (hgap : Gap gap) (depth : Nat) (text : List Char) :
    readValue (depth + 1) (gap ++ '[' :: text) =
      (readItems (readValue depth) (text.length + 1) [] text).map fun (items, rest) =>
        (.array items, rest) := by
  rw [readValue, skipSpace_gap hgap rfl]
  cases hread : readItems (readValue depth) (text.length + 1) [] text <;>
    simp [hread, bind, Except.bind, pure, Except.pure, Except.map]

theorem readValue_object {gap : List Char} (hgap : Gap gap) (depth : Nat) (text : List Char) :
    readValue (depth + 1) (gap ++ '{' :: text) =
      (readFields (readValue depth) (text.length + 1) true [] text).map fun (fields, rest) =>
        (.object fields, rest) := by
  rw [readValue, skipSpace_gap hgap rfl]
  cases hread : readFields (readValue depth) (text.length + 1) true [] text <;>
    simp [hread, bind, Except.bind, pure, Except.pure, Except.map]

/-- A list is read with one level more than its items take. -/
theorem reads_array {depth : Nat} {items : List Value} (hregular : ∀ item ∈ items, item.Regular)
    (hreads : ∀ item ∈ items, Reads (readValue depth) item item) :
    Reads (readValue (depth + 1)) (.array items) (.array items) := by
  intro gap text rest hgap htext hrest
  cases htext with
  | @array _ body hbody =>
      have hread := readItems_joined hregular hreads [] hbody (hbody.length_lt ']' rest) rest
      rw [List.append_assoc, List.cons_append, List.append_assoc, List.singleton_append,
        readValue_list hgap, hread]
      rfl

/-- An object is read with one level more than its fields take. -/
theorem reads_object {depth : Nat} {fields : List (String × Value)}
    (hkeys : (fields.map Prod.fst).Nodup)
    (hreads : ∀ field ∈ fields, Reads (readValue depth) field.2 field.2) :
    Reads (readValue (depth + 1)) (.object fields) (.object fields) := by
  intro gap text rest hgap htext hrest
  cases htext with
  | @object _ body hbody =>
      have hread := readFields_joined hreads [] hkeys hbody (hbody.length_lt '}' rest) rest
      rw [List.append_assoc, List.cons_append, List.append_assoc, List.singleton_append,
        readValue_object hgap, hread]
      rfl

/-- Every spelling of a regular value is read as that value. -/
theorem reads_readValue {value : Value} (hregular : value.Regular) {depth : Nat}
    (hdepth : value.nesting ≤ depth) : Reads (readValue depth) value value := by
  induction value using Value.induction generalizing depth with
  | null => exact reads_null depth
  | bool value => exact reads_bool depth value
  | integer value =>
      cases hregular with
      | integer hlow hhigh => exact reads_integer depth hlow hhigh
  | double value => cases hregular
  | string text => exact reads_string depth text
  | array items ih =>
      cases hregular with
      | array hitems =>
          obtain ⟨inner, rfl⟩ := Nat.exists_eq_add_of_lt (Nat.lt_of_succ_le hdepth)
          refine reads_array hitems fun item hitem => ih item hitem (hitems item hitem) ?_
          have hitem := nesting_le_deepestItem hitem
          omega
  | object fields ih =>
      cases hregular with
      | object hkeys hfields =>
          obtain ⟨inner, rfl⟩ := Nat.exists_eq_add_of_lt (Nat.lt_of_succ_le hdepth)
          refine reads_object hkeys fun field hfield => ih field hfield (hfields field hfield) ?_
          have hfield := nesting_le_deepestField hfield
          omega

/-- A regular value that nests no deeper than a reader goes is what every spelling of it holds. -/
theorem parse_spelling {value : Value} (hregular : value.Regular)
    (hdepth : value.nesting ≤ maxDepth) {before text after : List Char} (hbefore : Gap before)
    (htext : Spells value text) (hafter : Gap after) :
    parse (String.ofList (before ++ text ++ after)) = .ok value :=
  (reads_readValue hregular hdepth).readAll_spelling hbefore htext hafter

end ArtifactRelease.Json
