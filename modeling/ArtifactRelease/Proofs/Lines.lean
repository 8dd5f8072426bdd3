import ArtifactRelease.VersionControl
import Mathlib.Data.List.DropRight

/-!
# Pieces, lines and blanks

Output that holds one entry per line is read in two ways, as the pieces between line feeds or as
lines with their endings.  Once the blanks around each entry are gone and the empty entries are
dropped, the two readings agree, and what is left of a text does not depend on its padding.
-/

namespace ArtifactRelease.Text

/-- The pieces of a text are those of the library's `List.splitOn`. -/
theorem splitOn_eq (separator : Char) (text : List Char) :
    splitOn separator text = text.splitOn separator := by
  induction text with
  | nil => rfl
  | cons c rest ih =>
      change splitStep separator c (splitOn separator rest) = _
      rw [ih, List.splitOn_cons_eq_if_modifyHead]
      rcases hpieces : rest.splitOn separator with _ | ⟨piece, later⟩
      · exact absurd hpieces (List.splitOn_ne_nil separator rest)
      · by_cases hc : c = separator <;> simp [splitStep, hc]

theorem splitOn_ne_nil (separator : Char) (text : List Char) : splitOn separator text ≠ [] := by
  rw [splitOn_eq]
  exact List.splitOn_ne_nil _ _

/-- A piece holds characters of the text, and no separator. -/
theorem mem_of_mem_splitOn {separator : Char} {text piece : List Char}
    (hpiece : piece ∈ splitOn separator text) {c : Char} (hc : c ∈ piece) :
    c ∈ text ∧ c ≠ separator := by
  induction text generalizing piece with
  | nil =>
      obtain rfl : piece = [] := List.mem_singleton.1 hpiece
      cases hc
  | cons first rest ih =>
      have hlater (hlater : piece ∈ splitOn separator rest) : c ∈ first :: rest ∧ c ≠ separator :=
        ⟨List.mem_cons_of_mem _ (ih hlater hc).1, (ih hlater hc).2⟩
      change piece ∈ splitStep separator first (splitOn separator rest) at hpiece
      rcases hpieces : splitOn separator rest with _ | ⟨next, later⟩
      · exact absurd hpieces (splitOn_ne_nil separator rest)
      · rw [hpieces] at hpiece hlater ih
        rw [splitStep] at hpiece
        split at hpiece
        · rcases List.mem_cons.1 hpiece with rfl | hmem
          · cases hc
          · exact hlater hmem
        · next hfirst =>
            rcases List.mem_cons.1 hpiece with rfl | hmem
            · rcases List.mem_cons.1 hc with rfl | hnext
              · exact ⟨List.mem_cons_self, hfirst⟩
              · have hfound := ih List.mem_cons_self hnext
                exact ⟨List.mem_cons_of_mem _ hfound.1, hfound.2⟩
            · exact hlater (List.mem_cons_of_mem _ hmem)

/-- The last piece is the end of the text. -/
theorem last_piece_suffix {separator : Char} {text last : List Char} {init : List (List Char)}
    (hpieces : splitOn separator text = init ++ [last]) : last <:+ text := by
  have hjoined : [separator].intercalate (init ++ [last]) = text := by
    rw [← hpieces, splitOn_eq, List.intercalate_splitOn]
  rw [← hjoined]
  clear hpieces hjoined
  induction init with
  | nil => simp
  | cons piece later ih =>
      obtain ⟨next, rest, hnext⟩ := List.exists_cons_of_ne_nil (List.concat_ne_nil last later)
      rw [hnext] at ih
      rw [List.cons_append, hnext, List.intercalate_cons_cons]
      exact ih.trans (List.suffix_append _ _)

/-- Where two texts meet, the last piece of the first goes on as the first piece of the second. -/
theorem exists_splitOn_append (separator : Char) (front back : List Char) :
    ∃ init last next later, splitOn separator front = init ++ [last] ∧
      splitOn separator back = next :: later ∧
      splitOn separator (front ++ back) = init ++ (last ++ next) :: later := by
  induction front with
  | nil =>
      obtain ⟨next, later, hback⟩ := List.exists_cons_of_ne_nil (splitOn_ne_nil separator back)
      exact ⟨[], [], next, later, rfl, hback, hback⟩
  | cons c rest ih =>
      obtain ⟨init, last, next, later, hrest, hback, hjoined⟩ := ih
      have hcons (text : List Char) :
          splitOn separator (c :: text) = splitStep separator c (splitOn separator text) := rfl
      rw [List.cons_append, hcons, hcons, hrest, hjoined]
      by_cases hc : c = separator
      · exact ⟨[] :: init, last, next, later, by simp [splitStep, hc], hback,
          by simp [splitStep, hc]⟩
      · cases init with
        | nil => exact ⟨[], c :: last, next, later, by simp [splitStep, hc], hback,
            by simp [splitStep, hc]⟩
        | cons first init => exact ⟨(c :: first) :: init, last, next, later,
            by simp [splitStep, hc], hback, by simp [splitStep, hc]⟩

/-! ## Blanks around a text -/

def Unpadded (text : List Char) : Prop :=
  (∀ c ∈ text.head?, ¬isBlank c) ∧ ∀ c ∈ text.getLast?, ¬isBlank c

/-- A text is what is left of it between two runs of blanks. -/
theorem exists_padding (text : List Char) :
    ∃ before after, (∀ c ∈ before, isBlank c) ∧ (∀ c ∈ after, isBlank c) ∧
      text = before ++ trim text ++ after := by
  refine ⟨text.takeWhile isBlank, (trimStart text).rtakeWhile isBlank, ?_, ?_, ?_⟩
  · exact fun c hc => List.mem_takeWhile_imp hc
  · exact fun c hc => List.mem_rtakeWhile_imp hc
  · have hend : trim text ++ (trimStart text).rtakeWhile isBlank = trimStart text :=
      List.rdropWhile_append_rtakeWhile
    rw [List.append_assoc, hend, trimStart, List.takeWhile_append_dropWhile]

theorem trim_padded {before core after : List Char} (hbefore : ∀ c ∈ before, isBlank c)
    (hafter : ∀ c ∈ after, isBlank c) (hcore : Unpadded core) :
    trim (before ++ core ++ after) = core := by
  have hstart : trimStart (before ++ core ++ after) = trimStart (core ++ after) := by
    rw [trimStart, trimStart, List.append_assoc, List.dropWhile_append_of_pos hbefore]
  rw [trim, hstart]
  cases core with
  | nil =>
      have hgone : trimStart ([] ++ after) = [] := List.dropWhile_eq_nil_iff.2 hafter
      rw [hgone]
      rfl
  | cons c rest =>
      have hfirst : trimStart (c :: rest ++ after) = c :: rest ++ after :=
        List.dropWhile_cons_of_neg (hcore.1 c rfl)
      have hlast : (c :: rest).rdropWhile isBlank = c :: rest := by
        rw [List.rdropWhile_eq_self_iff]
        intro hne
        exact hcore.2 _ (List.getLast?_eq_some_getLast hne)
      rw [hfirst, trimEnd, List.reverse_append,
        List.dropWhile_append_of_pos (by simpa using hafter)]
      exact hlast

theorem trim_unpadded (text : List Char) : Unpadded (trim text) := by
  have hlast : ∀ c ∈ (trim text).getLast?, ¬isBlank c := by
    intro c hc
    obtain ⟨hne, rfl⟩ := List.mem_getLast?_eq_getLast hc
    exact List.rdropWhile_last_not isBlank _ hne
  refine ⟨?_, hlast⟩
  intro c hc
  -- the first character left is the first of those that trimming at the start leaves
  obtain ⟨rest, hrest⟩ : trim text <+: trimStart text :=
    List.rdropWhile_prefix isBlank _
  have hhead : (trimStart text).head? = some c := by
    rw [← hrest, List.head?_append, Option.mem_def.1 hc]
    rfl
  have hne : trimStart text ≠ [] := by
    rintro hnil
    simp [hnil] at hhead
  rw [List.head?_eq_some_head hne, Option.some.injEq] at hhead
  rw [← hhead, Bool.not_eq_true]
  exact List.head_dropWhile_not isBlank hne

theorem trim_eq_self {text : List Char} (htext : Unpadded text) : trim text = text := by
  simpa using @trim_padded [] text [] (by simp) (by simp) htext

/-- A text that is not blank is found again between two runs of blanks. -/
theorem nonBlank?_padded {before text after : String} (hbefore : ∀ c ∈ before.toList, isBlank c)
    (hafter : ∀ c ∈ after.toList, isBlank c) (htext : Unpadded text.toList) (hne : text ≠ "") :
    nonBlank? (before ++ text ++ after) = some text := by
  have htrimmed : trimmed (before ++ text ++ after) = text := by
    rw [trimmed, String.toList_append, String.toList_append, trim_padded hbefore hafter htext,
      String.ofList_toList]
  have hfull : text.isEmpty = false := by rwa [← Bool.not_eq_true, String.isEmpty_iff]
  simp [nonBlank?, htrimmed, hfull]

theorem unpadded_of_nonBlank? {text inner : String} (hinner : nonBlank? text = some inner) :
    inner ≠ "" ∧ Unpadded inner.toList := by
  rw [nonBlank?] at hinner
  split_ifs at hinner with hempty
  obtain rfl := Option.some.inj hinner
  rw [String.isEmpty_iff] at hempty
  refine ⟨hempty, ?_⟩
  rw [trimmed, String.toList_ofList]
  exact trim_unpadded _

/-- Blanks that are added at the end of a text make no difference to what is left of it. -/
theorem trim_append_blanks (text : List Char) {blanks : List Char}
    (hblanks : ∀ c ∈ blanks, isBlank c) : trim (text ++ blanks) = trim text := by
  obtain ⟨before, after, hbefore, hafter, htext⟩ := exists_padding text
  have hend : ∀ c ∈ after ++ blanks, isBlank c := by
    intro c hc
    rcases List.mem_append.1 hc with hc | hc
    · exact hafter c hc
    · exact hblanks c hc
  calc trim (text ++ blanks)
      = trim (before ++ trim text ++ (after ++ blanks)) := by
        rw [← List.append_assoc, ← htext]
    _ = trim text := trim_padded hbefore hend (trim_unpadded text)

/-- Nor do blanks that are added in front. -/
theorem trim_blanks_append {blanks : List Char} (hblanks : ∀ c ∈ blanks, isBlank c)
    (text : List Char) : trim (blanks ++ text) = trim text := by
  rw [trim, trim, trimStart, List.dropWhile_append_of_pos hblanks, ← trimStart]

theorem trim_dropLastIf {c : Char} (hblank : isBlank c) (text : List Char) :
    trim (dropLastIf c text) = trim text := by
  rw [dropLastIf]
  split
  · next hlast =>
      obtain ⟨rest, rfl⟩ := List.getLast?_eq_some_iff.1 hlast
      rw [List.dropLast_concat, trim_append_blanks rest (by simpa using hblank)]
  · rfl

/-! ## Entries of a list -/

/-- What is left of the lines of a text is what is left of its pieces, empty entries apart. -/
theorem filter_trim_lines (text : List Char) :
    ((lines text).map trim).filter (!·.isEmpty) =
      ((splitOn '\n' text).map trim).filter (!·.isEmpty) := by
  have hterminated (pieces : List (List Char)) :
      (pieces.map (dropLastIf '\r')).map trim = pieces.map trim := by
    rw [List.map_map]
    exact List.map_congr_left fun piece _ => trim_dropLastIf rfl piece
  obtain ⟨init, last, hpieces⟩ : ∃ init last, splitOn '\n' text = init ++ [last] :=
    ⟨_, _, (List.dropLast_concat_getLast (splitOn_ne_nil _ _)).symm⟩
  simp only [lines, hpieces, List.dropLast_concat, List.getLast?_concat]
  cases last with
  | nil =>
      have hempty : trim [] = [] := rfl
      simp [hterminated, hempty]
  | cons c rest => simp only [List.map_append, List.map_cons, List.map_nil, hterminated]

end ArtifactRelease.Text

namespace ArtifactRelease

open ArtifactRelease.Text

/-- Dropping empty texts can be left to their characters. -/
theorem filter_map_ofList (texts : List (List Char)) :
    (texts.map String.ofList).filter (!·.isEmpty) =
      (texts.filter (!·.isEmpty)).map String.ofList := by
  rw [List.filter_map]
  congr 2
  funext text
  cases text <;> simp [String.isEmpty_iff]

/-- What is left of the pieces of a text. -/
theorem filter_trimmed_pieces (separator : Char) (text : String) :
    ((pieces separator text).map trimmed).filter (!·.isEmpty) =
      (((splitOn separator text.toList).map trim).filter (!·.isEmpty)).map String.ofList := by
  rw [← filter_map_ofList, pieces]
  simp [Function.comp_def, trimmed]

/-- The listed tags are the pieces between line feeds, trimmed, as far as anything is left. -/
theorem listedTags_eq (output : String) :
    listedTags output = ((pieces '\n' output).map trimmed).filter (!·.isEmpty) := by
  rw [filter_trimmed_pieces, listedTags, ← List.map_map, filter_map_ofList, filter_trim_lines]

end ArtifactRelease
