import ArtifactRelease.Number.Decimal
import Mathlib.Data.List.Induction
import Mathlib.Tactic.Ring

/-!
# Digits of natural numbers

A number has exactly one spelling in decimal digits without a needless zero in front, and reading
that spelling gives the number back.  Zeros in front change nothing of what is read, and texts of
as many digits are in the order of their numbers.
-/

namespace ArtifactRelease.Number

/-- Decimal digits, without a zero in front unless there is nothing else. -/
structure IsNumeral (text : List Char) : Prop where
  nonempty : text ≠ []
  digits : ∀ c ∈ text, isDigit c
  no_leading_zero : text.head? = some '0' → text = ['0']

theorem IsNumeral.of_ne {text : List Char} (hne : text ≠ []) (hdigits : ∀ c ∈ text, isDigit c)
    (hzero : ∀ c rest, text ≠ '0' :: c :: rest) : IsNumeral text := by
  refine ⟨hne, hdigits, ?_⟩
  intro hfirst
  obtain ⟨rest, rfl⟩ := List.head?_eq_some_iff.1 hfirst
  cases rest with
  | nil => rfl
  | cons c later => exact absurd rfl (hzero c later)

theorem isDigit_eq (c : Char) : isDigit c = c.isDigit := rfl

/-- A digit is the one for its value. -/
theorem exists_digitChar {c : Char} (hc : isDigit c) :
    ∃ value, value < 10 ∧ c = Nat.digitChar value := by
  rw [isDigit, Bool.and_eq_true, decide_eq_true_eq, decide_eq_true_eq, Char.le_def, Char.le_def,
    UInt32.le_iff_toNat_le, UInt32.le_iff_toNat_le] at hc
  have hlow : 48 ≤ c.toNat := hc.1
  have hhigh : c.toNat ≤ 57 := hc.2
  refine ⟨c.toNat - 48, by omega, Char.toNat_inj.1 ?_⟩
  rw [Nat.toNat_digitChar_of_lt_ten (by omega)]
  omega

theorem ofDigits_nil : ofDigits [] = 0 := rfl

theorem ofDigits_concat (front : List Char) (value : Nat) (hvalue : value < 10) :
    ofDigits (front ++ [Nat.digitChar value]) = 10 * ofDigits front + value := by
  have hdigit := Nat.toNat_digitChar_sub_48_of_lt_ten hvalue
  rw [ofDigits, List.foldl_append, List.foldl_cons, List.foldl_nil, hdigit, Nat.mul_comm]
  rfl

theorem ofDigits_digits (value : Nat) : ofDigits (digits value) = value := by
  induction value using Nat.strongRecOn with
  | _ value ih =>
      rw [digits, Nat.toDigits_eq_if (by decide)]
      split
      · next hsmall => simpa [ofDigits_nil] using ofDigits_concat [] value hsmall
      · have hshorter := ih (value / 10) (by omega)
        rw [digits] at hshorter
        rw [ofDigits_concat _ _ (Nat.mod_lt _ (by decide)), hshorter, Nat.div_add_mod]

theorem digits_injective : Function.Injective digits :=
  Function.LeftInverse.injective ofDigits_digits

theorem digits_zero : digits 0 = ['0'] := Nat.toDigits_zero 10

theorem digits_isNumeral (value : Nat) : IsNumeral (digits value) where
  nonempty := Nat.toDigits_ne_nil
  digits c hc := isDigit_eq c ▸ Nat.isDigit_of_mem_toDigits (by decide) (by decide) hc
  no_leading_zero hzero := by
    induction value using Nat.strongRecOn with
    | _ value ih =>
        rw [digits, Nat.toDigits_eq_if (by decide)] at hzero
        split at hzero
        · next hsmall =>
            have hchar : Nat.digitChar value = '0' := by simpa using hzero
            have hcode : '0'.toNat = 48 + value := hchar ▸ Nat.toNat_digitChar_of_lt_ten hsmall
            have hvalue : value = 0 := (Nat.add_left_cancel hcode).symm
            rw [hvalue, digits_zero]
        · next hlarge =>
            -- the same zero would stand in front of all but the last digit
            rw [List.head?_append, List.head?_eq_some_head Nat.toDigits_ne_nil, Option.some_or,
              ← List.head?_eq_some_head] at hzero
            have hshorter := ih (value / 10) (by omega) hzero
            have hnone : value / 10 = 0 := digits_injective (hshorter.trans digits_zero.symm)
            omega

theorem digits_ofDigits {text : List Char} (htext : IsNumeral text) :
    digits (ofDigits text) = text := by
  induction text using List.reverseRecOn with
  | nil => exact absurd rfl htext.nonempty
  | append_singleton front c ih =>
      obtain ⟨value, hvalue, rfl⟩ := exists_digitChar (htext.digits c (by simp))
      rw [ofDigits_concat front value hvalue, digits]
      rcases front with _ | ⟨first, more⟩
      · simpa [ofDigits_nil] using Nat.toDigits_of_lt_base hvalue
      · have hfirst : first ≠ '0' := by
          rintro rfl
          simpa using htext.no_leading_zero rfl
        have hfront : IsNumeral (first :: more) :=
          ⟨by simp, fun d hd => htext.digits d (List.mem_append_left _ hd), by simp [hfirst]⟩
        have hpositive : 0 < ofDigits (first :: more) := by
          rw [Nat.pos_iff_ne_zero]
          intro hzero
          have hdigits := ih hfront
          rw [hzero, digits_zero] at hdigits
          exact hfirst (List.cons.inj hdigits).1.symm
        have hshown := ih hfront
        rw [digits] at hshown
        rw [← Nat.toDigits_append_toDigits (by decide) hpositive hvalue, hshown,
          Nat.toDigits_of_lt_base hvalue]

/-! ## Digits behind zeros -/

theorem ofDigits_replicate_append (count : Nat) (text : List Char) :
    ofDigits (List.replicate count '0' ++ text) = ofDigits text := by
  induction count with
  | zero => rfl
  | succ count ih => exact ih

theorem ofDigits_padded (width value : Nat) : ofDigits (padded width value) = value := by
  rw [padded, ofDigits_replicate_append, ofDigits_digits]

theorem isDigit_of_mem_padded {width value : Nat} {c : Char} (hc : c ∈ padded width value) :
    isDigit c := by
  rcases List.mem_append.1 hc with hzero | hdigit
  · rw [List.eq_of_mem_replicate hzero]
    rfl
  · exact (digits_isNumeral value).digits c hdigit

theorem le_length_padded (width value : Nat) : width ≤ (padded width value).length := by
  rw [padded, List.length_append, List.length_replicate]
  omega

theorem length_padded {width value : Nat} (hwidth : 0 < width) (hfits : value < 10 ^ width) :
    (padded width value).length = width := by
  have hdigits : (digits value).length ≤ width :=
    (Nat.length_toDigits_le_iff (by decide) hwidth).2 hfits
  rw [padded, List.length_append, List.length_replicate]
  omega

/-! ## Digits in order -/

theorem foldl_digits (start : Nat) (text : List Char) :
    text.foldl (fun value digit => value * 10 + (digit.toNat - 0x30)) start =
      start * 10 ^ text.length + ofDigits text := by
  induction text using List.reverseRecOn with
  | nil => simp [ofDigits_nil]
  | append_singleton front c ih =>
      rw [ofDigits, List.foldl_append, List.foldl_append, ih, ← ofDigits, List.length_append,
        List.length_singleton, Nat.pow_succ]
      simp only [List.foldl_cons, List.foldl_nil]
      ring

theorem ofDigits_cons {value : Nat} (hvalue : value < 10) (rest : List Char) :
    ofDigits (Nat.digitChar value :: rest) = value * 10 ^ rest.length + ofDigits rest := by
  have hdigit := Nat.toNat_digitChar_sub_48_of_lt_ten hvalue
  rw [ofDigits, List.foldl_cons, foldl_digits, hdigit, Nat.zero_mul, Nat.zero_add]

theorem ofDigits_lt {text : List Char} (htext : ∀ c ∈ text, isDigit c) :
    ofDigits text < 10 ^ text.length := by
  induction text using List.reverseRecOn with
  | nil => exact Nat.one_pos
  | append_singleton front c ih =>
      obtain ⟨value, hvalue, rfl⟩ := exists_digitChar (htext c (by simp))
      have hfront := ih fun d hd => htext d (List.mem_append_left _ hd)
      rw [ofDigits_concat front value hvalue, List.length_append, List.length_singleton,
        Nat.pow_succ]
      omega

theorem digitChar_order : ∀ a < 10, ∀ b < 10,
    (Nat.digitChar a < Nat.digitChar b ↔ a < b) ∧ (Nat.digitChar a = Nat.digitChar b ↔ a = b) := by
  decide

theorem mul_add_lt_iff {a b base r s : Nat} (hr : r < base) (hs : s < base) :
    a * base + r < b * base + s ↔ a < b ∨ a = b ∧ r < s := by
  rcases Nat.lt_trichotomy a b with hlt | rfl | hgt
  · have hnext := Nat.mul_le_mul_right base (Nat.succ_le_of_lt hlt)
    rw [Nat.succ_mul] at hnext
    omega
  · omega
  · have hnext := Nat.mul_le_mul_right base (Nat.succ_le_of_lt hgt)
    rw [Nat.succ_mul] at hnext
    omega

/-- Digits are in the order of the numbers. -/
theorem ofDigits_lt_iff {first second : List Char} (hlength : first.length = second.length)
    (hfirst : ∀ c ∈ first, isDigit c) (hsecond : ∀ c ∈ second, isDigit c) :
    first < second ↔ ofDigits first < ofDigits second := by
  induction first generalizing second with
  | nil =>
      obtain rfl := List.length_eq_zero_iff.1 hlength.symm
      simp
  | cons c later ih =>
      obtain ⟨d, more, rfl⟩ := List.exists_cons_of_length_eq_add_one hlength.symm
      obtain ⟨a, ha, rfl⟩ := exists_digitChar (hfirst c List.mem_cons_self)
      obtain ⟨b, hb, rfl⟩ := exists_digitChar (hsecond d List.mem_cons_self)
      rw [List.forall_mem_cons] at hfirst hsecond
      have hsame : later.length = more.length := Nat.succ.inj hlength
      have hlater := ofDigits_lt hfirst.2
      have hmore := ofDigits_lt hsecond.2
      obtain ⟨hlt, heq⟩ := digitChar_order a ha b hb
      rw [List.cons_lt_cons_iff, hlt, heq, ih hsame hfirst.2 hsecond.2, ofDigits_cons ha,
        ofDigits_cons hb, hsame, mul_add_lt_iff (hsame ▸ hlater) hmore]

/-- Texts that start with as many characters are in the order of these, and then of the rest. -/
theorem append_lt_append_iff {a b x y : List Char} (hlength : a.length = b.length) :
    a ++ x < b ++ y ↔ a < b ∨ a = b ∧ x < y := by
  induction a generalizing b with
  | nil =>
      obtain rfl := List.length_eq_zero_iff.1 hlength.symm
      simp
  | cons c later ih =>
      obtain ⟨d, more, rfl⟩ := List.exists_cons_of_length_eq_add_one hlength.symm
      rw [List.cons_append, List.cons_append, List.cons_lt_cons_iff, List.cons_lt_cons_iff,
        ih (Nat.succ.inj hlength), List.cons.injEq, or_assoc, and_or_left, and_assoc]

/-- Numbers of one width are told apart by their digits, and so is what comes behind them. -/
theorem padded_append_lt_iff {width value other : Nat} (hwidth : 0 < width)
    (hvalue : value < 10 ^ width) (hother : other < 10 ^ width) {x y : List Char} :
    padded width value ++ x < padded width other ++ y ↔ value < other ∨ value = other ∧ x < y := by
  have hlength : (padded width value).length = (padded width other).length :=
    (length_padded hwidth hvalue).trans (length_padded hwidth hother).symm
  have heq : padded width value = padded width other ↔ value = other := by
    constructor
    · intro hsame
      rw [← ofDigits_padded width value, hsame, ofDigits_padded]
    · rintro rfl
      rfl
  rw [append_lt_append_iff hlength, heq,
    ofDigits_lt_iff hlength (fun c hc => isDigit_of_mem_padded hc)
      (fun c hc => isDigit_of_mem_padded hc), ofDigits_padded, ofDigits_padded]

end ArtifactRelease.Number
