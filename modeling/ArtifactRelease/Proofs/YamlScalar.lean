import ArtifactRelease.Json.Token
import ArtifactRelease.Yaml.Document
import Mathlib.Data.List.Basic
import Mathlib.Data.List.TakeWhile

/-!
# Reading YAML scalars back

A reader that tells the four styles apart by the first character of a scalar, and undoes each.  It
gives back the string of every scalar, whether that was written plain, and what follows its line, as
long as what follows is less indented than the continuation lines of the scalar.
-/

namespace ArtifactRelease.Yaml

def keep (c : Char) (read : List Char × List Char) : List Char × List Char :=
  (c :: read.1, read.2)

theorem spaces_succ (width : Nat) : spaces (width + 1) = ' ' :: spaces width := rfl

/-! ## Double quotes -/

/-- The marks that stand for a character behind a backslash. -/
def marks : List (Char × Char) :=
  [('"', '"'), ('\\', '\\'), ('0', Char.ofNat 0x00), ('a', Char.ofNat 0x07),
    ('b', Char.ofNat 0x08), ('t', Char.ofNat 0x09), ('n', Char.ofNat 0x0A),
    ('v', Char.ofNat 0x0B), ('f', Char.ofNat 0x0C), ('r', Char.ofNat 0x0D),
    ('e', Char.ofNat 0x1B), ('N', Char.ofNat 0x85), ('L', Char.ofNat 0x2028),
    ('P', Char.ofNat 0x2029)]

def ofHex (shown : List Char) : Char :=
  Char.ofNat (shown.foldl (fun code c => code * 16 + (Json.hexValue? c).getD 0) 0)

def readDoubleQuoted : List Char → List Char × List Char
  | [] => ([], [])
  | '"' :: rest => ([], rest)
  | '\\' :: 'x' :: a :: b :: rest => keep (ofHex [a, b]) (readDoubleQuoted rest)
  | '\\' :: 'u' :: a :: b :: c :: d :: rest => keep (ofHex [a, b, c, d]) (readDoubleQuoted rest)
  | '\\' :: mark :: rest => keep ((marks.lookup mark).getD mark) (readDoubleQuoted rest)
  | c :: rest => keep c (readDoubleQuoted rest)

theorem escapeChar_of_mem_marks {mark c : Char} (hmem : (mark, c) ∈ marks) :
    escapeChar c = ['\\', mark] ∧ marks.lookup mark = some c ∧ mark ≠ 'x' ∧ mark ≠ 'u' := by
  have hall : ∀ pair ∈ marks, escapeChar pair.2 = ['\\', pair.1] ∧
      marks.lookup pair.1 = some pair.2 ∧ pair.1 ≠ 'x' ∧ pair.1 ≠ 'u' := by
    decide
  exact hall (mark, c) hmem

theorem escapeChar_of_not_mem_marks {c : Char} (hc : c ∉ marks.map Prod.snd) :
    escapeChar c =
      if isPlainCharacter c && !isBreak c then [c]
      else if c.toNat ≤ 0xFF then ['\\', 'x'] ++ upperHex 2 c.toNat
      else if c.toNat ≤ 0xFFFF then ['\\', 'u'] ++ upperHex 4 c.toNat
      else ['\\', 'U'] ++ upperHex 8 c.toNat := by
  have hne {other : Char} (hother : other ∈ marks.map Prod.snd) : c ≠ other := by
    rintro rfl
    exact hc hother
  have hcode (code : Nat) (hother : Char.ofNat code ∈ marks.map Prod.snd) : c.toNat ≠ code := by
    rintro rfl
    rw [Char.ofNat_toNat] at hother
    exact hc hother
  rw [escapeChar, if_neg (hne (by decide)), if_neg (hne (by decide))]
  dsimp only
  rw [if_neg (hcode 0x00 (by decide)), if_neg (hcode 0x07 (by decide)),
    if_neg (hcode 0x08 (by decide)), if_neg (hcode 0x09 (by decide)),
    if_neg (hcode 0x0A (by decide)), if_neg (hcode 0x0B (by decide)),
    if_neg (hcode 0x0C (by decide)), if_neg (hcode 0x0D (by decide)),
    if_neg (hcode 0x1B (by decide)), if_neg (hcode 0x85 (by decide)),
    if_neg (hcode 0x2028 (by decide)), if_neg (hcode 0x2029 (by decide))]

theorem upperHex_two {code : Nat} (hcode : code < 0x100) :
    ∃ a b, upperHex 2 code = [a, b] ∧ ofHex [a, b] = Char.ofNat code := by
  have hall : ∀ code < 0x100,
      (upperHex 2 code).length = 2 ∧ ofHex (upperHex 2 code) = Char.ofNat code := by
    decide +kernel
  obtain ⟨hlength, hhex⟩ := hall code hcode
  obtain ⟨a, b, hshown⟩ := List.length_eq_two.1 hlength
  exact ⟨a, b, hshown, hshown ▸ hhex⟩

/-- Only three characters need four digits. -/
theorem upperHex_four {c : Char} (hspecial : isPlainCharacter c = false) (hlow : 0xFF < c.toNat) :
    c.toNat ≤ 0xFFFF ∧
      ∃ s t u v, upperHex 4 c.toNat = [s, t, u, v] ∧ ofHex [s, t, u, v] = c := by
  have hvalid : c.toNat < 0xD800 ∨ 0xDFFF < c.toNat ∧ c.toNat < 0x110000 := c.valid
  have hcode : c.toNat = 0xFEFF ∨ c.toNat = 0xFFFE ∨ c.toNat = 0xFFFF := by
    simp [isPlainCharacter] at hspecial
    omega
  refine ⟨by omega, ?_⟩
  rw [← c.ofNat_toNat]
  rcases hcode with hcode | hcode | hcode
  · rw [hcode]
    exact ⟨'F', 'E', 'F', 'F', by decide⟩
  · rw [hcode]
    exact ⟨'F', 'F', 'F', 'E', by decide⟩
  · rw [hcode]
    exact ⟨'F', 'F', 'F', 'F', by decide⟩

theorem mem_marks_of_isBreak {c : Char} (hc : isBreak c) : c ∈ marks.map Prod.snd := by
  have hall : ∀ code ∈ [0x0A, 0x0D, 0x85, 0x2028, 0x2029],
      Char.ofNat code ∈ marks.map Prod.snd := by
    decide
  have hcode : c.toNat ∈ [0x0A, 0x0D, 0x85, 0x2028, 0x2029] := by
    simp only [isBreak, Bool.or_eq_true, decide_eq_true_eq] at hc
    rcases hc with (((rfl | rfl) | hc) | hc) | hc
    · decide
    · decide
    all_goals simp [hc]
  simpa using hall c.toNat hcode

/-- Each character is read back, whether it is escaped or not. -/
theorem readDoubleQuoted_escapeChar (c : Char) (rest : List Char) :
    readDoubleQuoted (escapeChar c ++ rest) = keep c (readDoubleQuoted rest) := by
  by_cases hmark : c ∈ marks.map Prod.snd
  · obtain ⟨⟨mark, _⟩, hmem, rfl⟩ := List.mem_map.1 hmark
    obtain ⟨hescaped, hlookup, hx, hu⟩ := escapeChar_of_mem_marks hmem
    rw [hescaped]
    simp [readDoubleQuoted, hlookup, hx, hu]
  · have hquote : c ≠ '"' := by
      rintro rfl
      exact hmark (by decide)
    have hbackslash : c ≠ '\\' := by
      rintro rfl
      exact hmark (by decide)
    have hbreak : isBreak c = false := by
      rw [Bool.eq_false_iff]
      exact fun hc => hmark (mem_marks_of_isBreak hc)
    rw [escapeChar_of_not_mem_marks hmark, hbreak, Bool.not_false, Bool.and_true]
    split
    · simp [readDoubleQuoted, hbackslash]
    · next hplain =>
        rw [Bool.not_eq_true] at hplain
        split
        · next hlow =>
            obtain ⟨a, b, hshown, hread⟩ := upperHex_two (Nat.lt_succ_of_le hlow)
            simp [hshown, readDoubleQuoted, hread]
        · next hlow =>
            obtain ⟨hbasic, s, t, u, v, hshown, hread⟩ :=
              upperHex_four hplain (Nat.lt_of_not_le hlow)
            simp [hbasic, hshown, readDoubleQuoted, hread]

theorem readDoubleQuoted_flatMap (text rest : List Char) :
    readDoubleQuoted (text.flatMap escapeChar ++ '"' :: rest) = (text, rest) := by
  induction text with
  | nil => rw [List.flatMap_nil, List.nil_append, readDoubleQuoted]
  | cons c text ih =>
      rw [List.flatMap_cons, List.append_assoc, readDoubleQuoted_escapeChar, ih, keep]

/-! ## Single quotes -/

def quote : Char := Char.ofNat 0x27

/-- Reads a text from behind its opening quote up to its closing one.  Spaces behind a line break
are indentation; `closing` tells that a quote has just been read, which is the closing one unless
another follows. -/
def readSingleQuoted : (afterBreak closing : Bool) → List Char → List Char × List Char
  | _, _, [] => ([], [])
  | afterBreak, closing, c :: rest =>
    if closing then
      if c = quote then keep quote (readSingleQuoted false false rest) else ([], c :: rest)
    else if c = quote then readSingleQuoted false true rest
    else if afterBreak && c = ' ' then readSingleQuoted true false rest
    else keep c (readSingleQuoted (isBreak c) false rest)

theorem readSingleQuoted_spaces (width : Nat) (rest : List Char) :
    readSingleQuoted true false (spaces width ++ rest) = readSingleQuoted true false rest := by
  induction width with
  | zero => rfl
  | succ width ih =>
      have hspace : ' ' ≠ quote := by decide
      rw [spaces_succ, List.cons_append, readSingleQuoted]
      simpa [hspace] using ih

/-- The indentation behind a line break is no part of the text. -/
theorem readSingleQuoted_indentation (afterBreak : Bool) (indent : Nat) (shown : List Char) :
    readSingleQuoted afterBreak false ((if afterBreak then spaces indent else []) ++ shown) =
      readSingleQuoted afterBreak false shown := by
  cases afterBreak with
  | true => exact readSingleQuoted_spaces indent shown
  | false => rfl

theorem hasPair_cons (first second : Char → Bool) (c : Char) (text : List Char) :
    hasPair first second (c :: text) =
      ((first c && text.head?.any second) || hasPair first second text) := by
  cases text <;> simp [hasPair]

theorem readSingleQuoted_body (indent : Nat) {afterBreak : Bool} {text : List Char}
    (hfirst : afterBreak → text.head? ≠ some ' ') (hpairs : hasPair isBreak isSpace text = false)
    (rest : List Char) :
    readSingleQuoted afterBreak false
        (singleQuotedBody indent afterBreak text ++ quote :: '\n' :: rest) =
      (text, '\n' :: rest) := by
  induction text generalizing afterBreak with
  | nil =>
      have hline : '\n' ≠ quote := by decide
      rw [singleQuotedBody, readSingleQuoted_indentation]
      simp [readSingleQuoted, hline]
  | cons c text ih =>
      rw [hasPair_cons, Bool.or_eq_false_iff] at hpairs
      obtain ⟨hpair, hpairs⟩ := hpairs
      have hquote : Char.ofNat 0x27 = quote := rfl
      rw [singleQuotedBody, hquote]
      split
      · next hspace =>
          -- a space in the text never comes right behind a break
          have hafter : afterBreak = false := by
            rw [Bool.eq_false_iff]
            exact fun hafter => hfirst hafter (by rw [hspace, List.head?_cons])
          have hnext := @ih false nofun hpairs
          have hc : c ≠ quote ∧ isBreak c = false := by rw [hspace]; decide
          simp [readSingleQuoted, hafter, hc, hnext, keep]
      split
      · next hspace hbreak =>
          have hhead : text.head? ≠ some ' ' := by
            intro hhead
            simp [hbreak, hhead, isSpace] at hpair
          have hnext := @ih true (fun _ => hhead) hpairs
          have hc : c ≠ quote := by
            rintro rfl
            exact absurd hbreak (by decide)
          simp [readSingleQuoted, hspace, hc, hbreak, hnext, keep]
      · next hspace hbreak =>
          rw [Bool.not_eq_true] at hbreak
          have hnext := @ih false nofun hpairs
          rw [List.append_assoc, List.append_assoc, readSingleQuoted_indentation]
          split
          · next hc => simp [readSingleQuoted, hc, hnext, keep]
          · next hc => simp [readSingleQuoted, hspace, hc, hbreak, hnext, keep]

/-! ## Literal blocks -/

/-- The text ends, or its first line is indented by less than a width and not empty. -/
def Dedented (indent : Nat) (text : List Char) : Prop :=
  text = [] ∨ ∃ width c later, width < indent ∧ c ≠ ' ' ∧ isBreak c = false ∧
    text = spaces width ++ c :: later

/-- Reads the lines of a block up to the first that is less indented; `missing` counts the spaces
that are still to come before the text of a line. -/
def readLiteral (indent : Nat) : (missing : Nat) → List Char → List Char × List Char
  | 0, [] => ([], [])
  | 0, c :: rest => keep c (readLiteral indent (if isBreak c then indent else 0) rest)
  | missing + 1, [] => ([], spaces (indent - (missing + 1)))
  | missing + 1, c :: rest =>
    if c = ' ' then readLiteral indent missing rest
    else if isBreak c && missing + 1 = indent then keep c (readLiteral indent indent rest)
    else ([], spaces (indent - (missing + 1)) ++ c :: rest)

theorem readLiteral_spaces (indent width : Nat) (rest : List Char) :
    readLiteral indent width (spaces width ++ rest) = readLiteral indent 0 rest := by
  induction width with
  | zero => rfl
  | succ width ih => rw [spaces_succ, List.cons_append, readLiteral, if_pos rfl, ih]

/-- A block ends before a line that is less indented. -/
theorem readLiteral_dedented {indent : Nat} (hindent : 0 < indent) {rest : List Char}
    (hrest : Dedented indent rest) : readLiteral indent indent rest = ([], rest) := by
  rcases hrest with rfl | ⟨width, c, later, hwidth, hspace, hbreak, rfl⟩
  · obtain ⟨missing, rfl⟩ := Nat.exists_eq_succ_of_ne_zero (Nat.ne_of_gt hindent)
    simp [readLiteral, spaces]
  · have hstop (consumed width : Nat) (hwidth : consumed + width < indent) :
        readLiteral indent (indent - consumed) (spaces width ++ c :: later) =
          ([], spaces (consumed + width) ++ c :: later) := by
      induction width generalizing consumed with
      | zero =>
          obtain ⟨missing, hmissing⟩ : ∃ missing, indent - consumed = missing + 1 :=
            ⟨indent - consumed - 1, by omega⟩
          have hconsumed : indent - (missing + 1) = consumed := by omega
          rw [hmissing]
          simp [readLiteral, spaces, hspace, hbreak, hconsumed]
      | succ width ih =>
          obtain ⟨missing, hmissing⟩ : ∃ missing, indent - consumed = missing + 1 :=
            ⟨indent - consumed - 1, by omega⟩
          have hnext : indent - (consumed + 1) = missing := by omega
          have hlater := ih (consumed + 1) (by omega)
          rw [hnext, Nat.add_assoc, Nat.add_comm 1] at hlater
          rw [hmissing, spaces_succ, List.cons_append, readLiteral, if_pos rfl, hlater]
    simpa using hstop 0 width (by omega)

/-- The lines of a text that ends in a break are read back. -/
theorem readLiteral_body {indent : Nat} (hindent : 0 < indent) {rest : List Char}
    (hrest : Dedented indent rest) {afterBreak : Bool} {text : List Char}
    (hend : (text.getLast?.map isBreak).getD afterBreak) :
    readLiteral indent (if afterBreak then indent else 0)
        (literalBody indent afterBreak text ++ rest) = (text, rest) := by
  induction text generalizing afterBreak with
  | nil =>
      obtain rfl : afterBreak = true := hend
      exact readLiteral_dedented hindent hrest
  | cons c text ih =>
      have hlater : (text.getLast?.map isBreak).getD (isBreak c) := by
        rw [List.getLast?_cons] at hend
        cases hlast : text.getLast? <;> simpa [hlast] using hend
      have hnext := ih hlater
      by_cases hbreak : isBreak c
      · have hspace : c ≠ ' ' := by
          rintro rfl
          exact absurd hbreak (by decide)
        obtain ⟨missing, rfl⟩ := Nat.exists_eq_succ_of_ne_zero (Nat.ne_of_gt hindent)
        rw [hbreak, if_pos rfl] at hnext
        cases afterBreak <;> simp [literalBody, readLiteral, hspace, hbreak, hnext, keep]
      · have hdrop (shown : List Char) :
            readLiteral indent (if afterBreak then indent else 0)
                ((if afterBreak then spaces indent else []) ++ shown) =
              readLiteral indent 0 shown := by
          cases afterBreak with
          | true => exact readLiteral_spaces indent indent shown
          | false => rfl
        rw [Bool.not_eq_true] at hbreak
        rw [hbreak, if_neg Bool.false_ne_true] at hnext
        rw [literalBody, hbreak, if_neg Bool.false_ne_true, List.append_assoc, hdrop,
          List.cons_append, readLiteral, hbreak, if_neg Bool.false_ne_true, hnext, keep]

theorem getLast?_literalBody (indent : Nat) (afterBreak : Bool) (text : List Char) :
    (literalBody indent afterBreak text).getLast? = text.getLast? := by
  induction text generalizing afterBreak with
  | nil => rfl
  | cons c text ih =>
      rw [literalBody]
      split
      · rw [List.getLast?_cons, List.getLast?_cons, ih]
      · rw [List.getLast?_append_of_ne_nil _ (List.cons_ne_nil _ _), List.getLast?_cons,
          List.getLast?_cons, ih]

theorem literalBody_concat (indent : Nat) (afterBreak : Bool) (text : List Char) :
    literalBody indent afterBreak (text ++ ['\n']) =
      literalBody indent afterBreak text ++ ['\n'] := by
  have hbreak : isBreak '\n' = true := rfl
  induction text generalizing afterBreak with
  | nil => simp [literalBody, hbreak]
  | cons c text ih =>
      rw [List.cons_append, literalBody, literalBody, ih, ih]
      split
      · rw [List.cons_append]
      · rw [List.append_assoc, List.cons_append]

/-! ## Ends of lines -/

theorem endLine_append (front : List Char) {text : List Char} (hne : text ≠ []) :
    endLine (front ++ text) = front ++ endLine text := by
  rw [endLine, endLine, List.getLast?_append_of_ne_nil front hne]
  split <;> simp

theorem endLine_of_not_isBreak {text : List Char}
    (hlast : ∀ c ∈ text.getLast?, isBreak c = false) : endLine text = text ++ ['\n'] := by
  rw [endLine, if_neg]
  simpa [Option.any_eq_true] using hlast

/-- A block with its last line ended is that of the text with its last line ended. -/
theorem endLine_literalBody (indent : Nat) (afterBreak : Bool) (text : List Char) :
    endLine (literalBody indent afterBreak text) =
      literalBody indent afterBreak (endLine text) := by
  rw [endLine, endLine, getLast?_literalBody]
  split
  · rfl
  · rw [literalBody_concat]

/-! ## Scalars -/

/-- Reads a scalar and the end of its line: whether it was written plain, its string, and what
follows. -/
def readScalar (indent : Nat) : List Char → Bool × List Char × List Char
  | [] => (true, [], [])
  | c :: rest =>
    if c = '"' then
      let (text, rest) := readDoubleQuoted rest
      (false, text, rest.drop 1)
    else if c = quote then
      let (text, rest) := readSingleQuoted false false rest
      (false, text, rest.drop 1)
    else if c = '|' then
      let header := rest.takeWhile (· ≠ '\n')
      let (text, rest) := readLiteral indent indent (rest.drop (header.length + 1))
      (false, if '-' ∈ header then text.dropLast else text, rest)
    else
      (true, (c :: rest).takeWhile (· ≠ '\n'), ((c :: rest).dropWhile (· ≠ '\n')).drop 1)

theorem readScalar_doubleQuoted (indent : Nat) (text rest : List Char) :
    readScalar indent (doubleQuoted text ++ '\n' :: rest) = (false, text, rest) := by
  have hread := readDoubleQuoted_flatMap text ('\n' :: rest)
  rw [doubleQuoted, List.cons_append, List.append_assoc, List.singleton_append, readScalar,
    if_pos rfl, hread]
  rfl

theorem readScalar_singleQuoted (indent : Nat) {text : List Char}
    (hallowed : isSingleQuotedAllowed text) (rest : List Char) :
    readScalar indent (singleQuoted indent text ++ '\n' :: rest) = (false, text, rest) := by
  rw [isSingleQuotedAllowed, Bool.and_eq_true, Bool.not_eq_true', Bool.not_eq_true'] at hallowed
  have hread := @readSingleQuoted_body indent false text nofun hallowed.2 rest
  have hquote : Char.ofNat 0x27 = quote := rfl
  have hdouble : quote ≠ '"' := by decide
  rw [singleQuoted, hquote, List.cons_append, List.append_assoc, List.singleton_append, readScalar,
    if_neg hdouble, if_pos rfl, hread]
  rfl

/-- A text that has no line feed and is not opened like the other styles is read as it stands. -/
theorem readScalar_word (indent : Nat) {c : Char} {later : List Char} (hdouble : c ≠ '"')
    (hsingle : c ≠ quote) (hbar : c ≠ '|') (hline : '\n' ∉ c :: later) (rest : List Char) :
    readScalar indent (c :: later ++ '\n' :: rest) = (true, c :: later, rest) := by
  have hword : ∀ d ∈ c :: later, decide (d ≠ '\n') = true := by
    intro d hd
    rw [decide_eq_true_eq]
    rintro rfl
    exact hline hd
  rw [List.cons_append, readScalar, if_neg hdouble, if_neg hsingle, if_neg hbar,
    ← List.cons_append, List.takeWhile_append_of_pos hword, List.dropWhile_append_of_pos hword]
  simp

/-- The header says whether the last line feed of a block is part of its text. -/
theorem literalHeader_concat (front : List Char) (last : Char) :
    ∃ header, literalHeader (front ++ [last]) = '|' :: header ∧ '\n' ∉ header ∧
      ('-' ∈ header ↔ isBreak last = false) := by
  have hhint (known : Bool) (c : Char) (hc : c ≠ '2') : c ∉ if known then ['2'] else [] := by
    cases known <;> simp [hc]
  have hplus (known : Bool) (c : Char) (hc : c ≠ '+') : c ∉ if known then ['+'] else [] := by
    cases known <;> simp [hc]
  rw [literalHeader, List.reverse_append, List.reverse_singleton, List.singleton_append]
  dsimp only
  refine ⟨_, rfl, ?_, ?_⟩
  · rw [List.mem_append, not_or]
    refine ⟨hhint _ _ (by decide), ?_⟩
    cases isBreak last with
    | false => simp
    | true =>
        cases front.reverse with
        | nil => decide
        | cons c earlier => exact hplus (isBreak c) '\n' (by decide)
  · rw [List.mem_append, or_iff_right (hhint _ _ (by decide))]
    cases isBreak last with
    | false => simp
    | true =>
        cases front.reverse with
        | nil => decide
        | cons c earlier => exact iff_of_false (hplus (isBreak c) '-' (by decide)) (by decide)

theorem endLine_concat (front : List Char) (last : Char) :
    endLine (front ++ [last]) =
      if isBreak last then front ++ [last] else front ++ [last] ++ ['\n'] := by
  simp [endLine]

theorem endLine_concat_of_not_isBreak (front : List Char) {last : Char}
    (hlast : isBreak last = false) : endLine (front ++ [last]) = front ++ [last] ++ ['\n'] := by
  rw [endLine_concat, hlast, if_neg Bool.false_ne_true]

theorem readScalar_literal {indent : Nat} (hindent : 0 < indent) {text : List Char}
    (hne : text ≠ []) {rest : List Char} (hrest : Dedented indent rest) :
    readScalar indent (endLine (literal indent text) ++ rest) = (false, text, rest) := by
  obtain ⟨front, last, rfl⟩ : ∃ front last, text = front ++ [last] :=
    ⟨_, _, (List.dropLast_concat_getLast hne).symm⟩
  obtain ⟨header, hheader, hline, hchomp⟩ := literalHeader_concat front last
  have hbody : literalBody indent true (front ++ [last]) ≠ [] := by
    rw [← List.getLast?_isSome, getLast?_literalBody]
    simp
  have hend : ((endLine (front ++ [last])).getLast?.map isBreak).getD true := by
    have hbreak : isBreak '\n' = true := rfl
    rw [endLine_concat]
    split <;> simp [*]
  have hread := readLiteral_body hindent hrest hend
  have hshown : endLine (literal indent (front ++ [last])) ++ rest =
      '|' :: (header ++ '\n' :: (literalBody indent true (endLine (front ++ [last])) ++ rest)) := by
    rw [literal, hheader, ← List.singleton_append (x := '\n'), ← List.append_assoc,
      endLine_append _ hbody, endLine_literalBody]
    simp
  have hword : ∀ c ∈ header, decide (c ≠ '\n') = true := by
    intro c hc
    rw [decide_eq_true_eq]
    rintro rfl
    exact hline hc
  have htake (later : List Char) :
      (header ++ '\n' :: later).takeWhile (fun c => decide (c ≠ '\n')) = header := by
    rw [List.takeWhile_append_of_pos hword]
    simp
  have hdrop (later : List Char) :
      (header ++ '\n' :: later).drop (header.length + 1) = later := by
    simp
  have hbar : '|' ≠ '"' ∧ '|' ≠ quote := by decide
  rw [hshown, readScalar, if_neg hbar.1, if_neg hbar.2, if_pos rfl]
  rw [if_pos rfl] at hread
  simp only [htake, hdrop, hread]
  rw [endLine_concat]
  cases hbreak : isBreak last <;> simp [hchomp, hbreak]

theorem style_eq_plain_iff {text : List Char} :
    style text = .plain ↔ '\n' ∉ text ∧ isAmbiguous text = false ∧ isPlainAllowed text = true := by
  rw [style]
  split_ifs <;> simp_all

/-- A plain text is opened by none of the other styles, and has no line break. -/
theorem plain_shape {text : List Char} (hstyle : style text = .plain) :
    ∃ c later, text = c :: later ∧ isLeadingIndicator c = false ∧
      ∀ d ∈ text, isBreak d = false := by
  obtain ⟨-, hambiguous, hallowed⟩ := style_eq_plain_iff.1 hstyle
  cases text with
  | nil => exact absurd hambiguous (by decide)
  | cons c later =>
      refine ⟨c, later, rfl, ?_, ?_⟩
      · simp_all [isPlainAllowed, hasIndicator]
      · simp_all [isPlainAllowed]

theorem scalar_ne_nil (indent : Nat) (text : List Char) : scalar indent text ≠ [] := by
  rw [scalar]
  cases hstyle : style text with
  | plain =>
      obtain ⟨c, later, rfl, -⟩ := plain_shape hstyle
      exact List.cons_ne_nil c later
  | singleQuoted => exact List.cons_ne_nil _ _
  | doubleQuoted => exact List.cons_ne_nil _ _
  | literal => exact List.append_ne_nil_of_right_ne_nil _ (List.cons_ne_nil _ _)

/-- A scalar with the end of its line is read back, and so is how it was written. -/
theorem readScalar_scalar {indent : Nat} (hindent : 0 < indent) (text : List Char)
    {rest : List Char} (hrest : Dedented indent rest) :
    readScalar indent (endLine (scalar indent text) ++ rest) =
      (decide (style text = .plain), text, rest) := by
  have hquote : isBreak quote = false ∧ isBreak '"' = false := by decide
  rw [scalar]
  cases hstyle : style text with
  | plain =>
      obtain ⟨c, later, rfl, hc, hbreaks⟩ := plain_shape hstyle
      have hend := endLine_of_not_isBreak fun d hd => hbreaks d (List.mem_of_getLast? hd)
      have hline : '\n' ∉ c :: later := fun hmem => absurd (hbreaks _ hmem) (by decide)
      have hopening {d : Char} (hd : isLeadingIndicator d = true) : c ≠ d := by
        rintro rfl
        rw [hc] at hd
        cases hd
      simp only [hend, List.append_assoc, List.singleton_append, decide_true]
      exact readScalar_word indent (hopening (by decide)) (hopening (by decide))
        (hopening (by decide)) hline rest
  | singleQuoted =>
      have hallowed : isSingleQuotedAllowed text := by
        rw [style] at hstyle
        split_ifs at hstyle
        assumption
      have hend : endLine (singleQuoted indent text) = singleQuoted indent text ++ ['\n'] := by
        rw [singleQuoted, ← List.cons_append]
        exact endLine_concat_of_not_isBreak _ hquote.1
      simpa [hend] using readScalar_singleQuoted indent hallowed rest
  | doubleQuoted =>
      have hend : endLine (doubleQuoted text) = doubleQuoted text ++ ['\n'] := by
        rw [doubleQuoted, ← List.cons_append]
        exact endLine_concat_of_not_isBreak _ hquote.2
      simpa [hend] using readScalar_doubleQuoted indent text rest
  | literal =>
      have hne : text ≠ [] := by
        rintro rfl
        exact absurd hstyle (by decide)
      exact readScalar_literal hindent hne hrest

end ArtifactRelease.Yaml
