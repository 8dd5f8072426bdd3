import ArtifactRelease.Proofs.JsonNesting
import ArtifactRelease.Proofs.PublishOutcome

/-!
# Reading the printed artifact list

The builder prints the artifact list as JSON.  Whatever value it prints, in whichever of the two
layouts and between whatever blanks, is the list that is read, as long as containers nest no deeper
than the limit; beyond that the list is refused.  Blank output is no list, although not all white
space is a blank to JSON.
-/

namespace ArtifactRelease

open ArtifactRelease.Text

namespace Json

theorem not_isBlank_of_startsNumber {c : Char} (hc : c = '-' ∨ Number.isDigit c) :
    ¬isBlank c := by
  rcases hc with rfl | hc
  · decide
  · obtain ⟨value, hvalue, rfl⟩ := Number.exists_digitChar hc
    revert value
    decide

/-- A text that spells a value has a character that is no white space. -/
theorem Spells.exists_not_isBlank {value : Value} {text : List Char} (htext : Spells value text)
    (hregular : value.Regular) : ∃ c ∈ text, ¬isBlank c := by
  cases htext with
  | double number => cases hregular
  | integer value =>
      obtain ⟨c, later, hshown, hc⟩ := integerText_eq_cons value
      exact ⟨c, by simp [hshown], not_isBlank_of_startsNumber hc⟩
  | string text => exact ⟨'"', List.mem_cons_self, by decide⟩
  | array => exact ⟨'[', List.mem_cons_self, by decide⟩
  | object => exact ⟨'{', List.mem_cons_self, by decide⟩
  | null => exact ⟨'n', by decide, by decide⟩
  | yes => exact ⟨'t', by decide, by decide⟩
  | no => exact ⟨'f', by decide, by decide⟩

/-- The two texts of a value, without blanks and over several lines. -/
def Value.layouts (value : Value) : List (List Char) :=
  [value.compactChars, value.prettyChars 0]

theorem spells_of_mem_layouts {value : Value} {text : List Char} (htext : text ∈ value.layouts) :
    Spells value text := by
  rcases List.mem_pair.1 htext with rfl | rfl
  · exact spells_compactChars value
  · exact spells_prettyChars value 0

end Json

namespace Builder

open Json

/-- A spelled value is the artifact list, unless it nests too deep. -/
theorem parseList_spelling {value : Value} (hregular : value.Regular)
    {before text after : List Char} (hbefore : Gap before) (htext : Spells value text)
    (hafter : Gap after) :
    parseList (String.ofList (before ++ text ++ after)) =
      if value.nesting ≤ maxDepth then .ok value else .error (.json .tooDeep) := by
  have hblank : ¬Blank (String.ofList (before ++ text ++ after)) := by
    intro hblank
    obtain ⟨c, hmem, hc⟩ := htext.exists_not_isBlank hregular
    apply hc
    apply hblank
    simp [hmem]
  rw [parseList_of_not_blank hblank]
  split_ifs with hdepth
  · rw [parse_spelling hregular hdepth hbefore htext hafter]
  · rw [parse_spelling_tooDeep hregular (Nat.lt_of_not_le hdepth) hbefore htext hafter]

/-- What is read is made of what the command prints. -/
theorem readList_perform {σ : Type} (outside : Outside σ) (state : σ) (builder : Builder)
    (location : ArtifactLocation) {output : String}
    (hprinted : (outside.run (builder.listCommand .read location) state).1.outcome = .ok output) :
    ((builder.readList location).perform outside state).value = parseList output := by
  rw [readList, Plan.perform_bind, Plan.perform_command]
  simp only [hprinted]
  rfl

/-- The artifact list that is read is the value that was printed, unless that nests too deep, and
null if nothing was printed but white space. -/
theorem readList_of_printed {σ : Type} (outside : Outside σ) (state : σ) (builder : Builder)
    (location : ArtifactLocation) {output : String}
    (hprinted : (outside.run (builder.listCommand .read location) state).1.outcome = .ok output) :
    (∀ value : Value, value.Regular → ∀ text ∈ value.layouts, ∀ before after : List Char,
      Gap before → Gap after → output = String.ofList (before ++ text ++ after) →
        (value.nesting ≤ 127 →
          ((builder.readList location).perform outside state).value = .ok value) ∧
        (127 < value.nesting →
          ((builder.readList location).perform outside state).value = .error (.json .tooDeep) ∧
          Fault.tooDeep.message = "recursion limit exceeded")) ∧
    (Blank output → ((builder.readList location).perform outside state).value = .ok .null) := by
  rw [readList_perform outside state builder location hprinted]
  constructor
  · rintro value hregular text htext before after hbefore hafter rfl
    rw [parseList_spelling hregular hbefore (spells_of_mem_layouts htext) hafter]
    constructor
    · intro hdepth
      exact if_pos hdepth
    · intro hdeep
      exact ⟨if_neg (Nat.not_le_of_lt hdeep), rfl⟩
  · exact parseList_of_blank

/-- Lists in lists: 127 levels are read, one more is not.  A wide space alone is no list, though
JSON knows no such blank. -/
theorem nested_lists_are_read :
    let builder : Builder := ⟨"builder", []⟩
    let location : ArtifactLocation := ⟨"s3.local", "b", "p"⟩
    let nest (inner : Nat) : Value := inner.rec (.array []) fun _ value => .array [value]
    let read (output : String) : Except Failure Value :=
      ((builder.readList location).perform (Rehearsal.scripted .memory)
        ⟨[{ stdout := output }], []⟩).value
    read (String.ofList ("\t".toList ++ (nest 126).compactChars ++ "\r\n".toList)) =
        .ok (nest 126) ∧
      read (String.ofList ("\n ".toList ++ (nest 127).prettyChars 0 ++ [])) =
        .error (.json .tooDeep) ∧
      read "\u3000\n" = .ok .null := by
  intro builder location nest read
  have hregular (inner : Nat) : (nest inner).Regular := by
    induction inner with
    | zero => exact .array (List.forall_mem_nil _)
    | succ inner ih => exact .array (List.forall_mem_singleton.2 ih)
  have hnesting (inner : Nat) : (nest inner).nesting = inner + 1 := by
    induction inner with
    | zero => rfl
    | succ inner ih =>
        change max (nest inner).nesting 0 + 1 = inner + 1 + 1
        rw [ih, Nat.max_zero]
  have hread (output : String) := readList_of_printed (Rehearsal.scripted .memory)
    ⟨[{ stdout := output }], []⟩ builder location (show _ = Except.ok output from rfl)
  refine ⟨?_, ?_, ?_⟩
  · exact ((hread _).1 _ (hregular 126) _ List.mem_cons_self _ _ (by decide) (by decide) rfl).1
      (by rw [hnesting])
  · exact (((hread _).1 _ (hregular 127) _ (List.mem_cons_of_mem _ List.mem_cons_self) _ _
      (by decide) gap_nil rfl).2 (by rw [hnesting]; decide)).1
  · exact (hread _).2 (by decide)

end Builder

end ArtifactRelease
