import ArtifactRelease.Proofs.PublishOutcome
import ArtifactRelease.Proofs.TagValidation

/-!
# Lists of tags

Version control prints tags one to a line, and the output is read in two ways.  The tags at the
head are the pieces of the trimmed output, of which there is always one; of all tags only those
count that are not blank.  The two readings differ in white space alone.  Names that are printed
are read again as they are, as long as the white space at the two ends of the output is none of
theirs.
-/

namespace ArtifactRelease

open ArtifactRelease.Text

variable {σ τ : Type}

/-! ## Pieces of a padded text -/

namespace Text

/-- Nothing is left of the pieces of white space. -/
theorem trim_of_mem_splitOn {separator : Char} {blanks piece : List Char}
    (hblanks : ∀ c ∈ blanks, isBlank c) (hpiece : piece ∈ splitOn separator blanks) :
    trim piece = [] :=
  trim_eq_nil_iff.2 fun _ hc => hblanks _ (mem_of_mem_splitOn hpiece hc).1

theorem filter_trim_of_blank {pieces : List (List Char)}
    (hpieces : ∀ piece ∈ pieces, trim piece = []) :
    (pieces.map trim).filter (!·.isEmpty) = [] := by
  rw [List.filter_eq_nil_iff]
  intro left hleft
  obtain ⟨piece, hpiece, rfl⟩ := List.mem_map.1 hleft
  simp [hpieces piece hpiece]

theorem filter_trim_blanks_append (separator : Char) {blanks : List Char}
    (hblanks : ∀ c ∈ blanks, isBlank c) (text : List Char) :
    ((splitOn separator (blanks ++ text)).map trim).filter (!·.isEmpty) =
      ((splitOn separator text).map trim).filter (!·.isEmpty) := by
  obtain ⟨init, last, next, later, hinit, htext, hjoined⟩ :=
    exists_splitOn_append separator blanks text
  have hgone : ∀ piece ∈ init, trim piece = [] := fun piece hpiece =>
    trim_of_mem_splitOn hblanks (hinit ▸ List.mem_append_left [last] hpiece)
  have hlast : ∀ c ∈ last, isBlank c := fun c hc =>
    hblanks c (mem_of_mem_splitOn (hinit ▸ List.mem_concat_self) hc).1
  rw [hjoined, htext, List.map_append, List.filter_append, filter_trim_of_blank hgone,
    List.nil_append, List.map_cons, List.map_cons, trim_blanks_append hlast]

theorem filter_trim_append_blanks (separator : Char) (text : List Char) {blanks : List Char}
    (hblanks : ∀ c ∈ blanks, isBlank c) :
    ((splitOn separator (text ++ blanks)).map trim).filter (!·.isEmpty) =
      ((splitOn separator text).map trim).filter (!·.isEmpty) := by
  obtain ⟨init, last, next, later, htext, hlater, hjoined⟩ :=
    exists_splitOn_append separator text blanks
  have hgone : ∀ piece ∈ later, trim piece = [] := fun piece hpiece =>
    trim_of_mem_splitOn hblanks (hlater ▸ List.mem_cons_of_mem next hpiece)
  have hnext : ∀ c ∈ next, isBlank c := fun c hc =>
    hblanks c (mem_of_mem_splitOn (hlater ▸ List.mem_cons_self) hc).1
  rw [hjoined, htext, List.append_cons, List.map_append, List.filter_append,
    filter_trim_of_blank hgone, List.append_nil, List.map_append, List.map_append,
    List.map_singleton, List.map_singleton, trim_append_blanks last hnext]

/-- Trimming a text first takes nothing away from what is left of its pieces. -/
theorem filter_trim_splitOn_trim (separator : Char) (text : List Char) :
    ((splitOn separator (trim text)).map trim).filter (!·.isEmpty) =
      ((splitOn separator text).map trim).filter (!·.isEmpty) := by
  obtain ⟨before, after, hbefore, hafter, htext⟩ := exists_padding text
  conv_rhs => rw [htext]
  rw [filter_trim_append_blanks separator _ hafter, filter_trim_blanks_append separator hbefore]

end Text

/-! ## The two readings -/

/-- What is left of tags when each is trimmed and the empty ones are dropped. -/
def entries (tags : List String) : List String :=
  (tags.map trimmed).filter (!·.isEmpty)

theorem listedTags_eq_entries (output : String) :
    listedTags output = entries (splitTags output) := by
  rw [listedTags_eq, entries, splitTags, filter_trimmed_pieces, filter_trimmed_pieces, trimmed,
    String.toList_ofList, filter_trim_splitOn_trim]

/-- Whatever the output of `git tag` is, the list of all tags is what is left of the tags that the
same output would give as those at the head, in the same order and as many of each.  Nothing else
has a part in the two readings, whose questions are answered in any two worlds. -/
theorem tag_readings_agree (versionControl : VersionControl) (outside : Outside σ)
    (other : Outside τ) (state : σ) (later : τ) :
    let answer := (outside.run (versionControl.command .allTags) state).1.outcome
    let headAnswer := (other.run (versionControl.command .tagsAtHead) later).1.outcome
    (∀ output, listedTags output = entries (splitTags output)) ∧
      (versionControl.allTags.perform outside state).value =
        (answer.mapError (QueryFailure.mk .allTags)).map (entries ∘ splitTags) ∧
      (versionControl.tagsAtHead.perform other later).value =
        (headAnswer.mapError (QueryFailure.mk .tagsAtHead)).map splitTags := by
  intro answer headAnswer
  have hread : listedTags = entries ∘ splitTags := by
    funext output
    rw [listedTags_eq_entries, Function.comp_apply]
  refine ⟨listedTags_eq_entries, ?_, ?_⟩
  · calc (versionControl.allTags.perform outside state).value
        = (answer.mapError (QueryFailure.mk .allTags)).map listedTags :=
          congrArg Performance.value (versionControl.ask_map_perform outside _ listedTags state)
      _ = (answer.mapError (QueryFailure.mk .allTags)).map (entries ∘ splitTags) := by rw [hread]
  · exact congrArg Performance.value (versionControl.ask_map_perform other _ splitTags later)

/-- Blank lines, a carriage return, and a wide space at the end. -/
example : listedTags "\n v1.0.0\r\n\n\tv1.1.0\nv1.0.0\u3000" = ["v1.0.0", "v1.1.0", "v1.0.0"] ∧
    splitTags "\n v1.0.0\r\n\n\tv1.1.0\nv1.0.0\u3000" =
      ["v1.0.0\r", "", "\tv1.1.0", "v1.0.0"] := by decide

/-! ## Names that are printed -/

def printed (names : List String) : String :=
  String.join (names.map (· ++ "\n"))

/-- Names that can be read again when they are printed one to a line: none goes over the end of a
line, the first does not start with white space, and the last does not end with it. -/
structure Listable (names : List String) : Prop where
  unbroken : ∀ name ∈ names, '\n' ∉ name.toList
  starts : ∃ first ∈ names.head?, first ≠ "" ∧ ∀ c ∈ first.toList.head?, ¬isBlank c
  ends : ∃ last ∈ names.getLast?, last ≠ "" ∧ ∀ c ∈ last.toList.getLast?, ¬isBlank c

theorem toList_joined (names : List String) :
    ("\n".intercalate names).toList = ['\n'].intercalate (names.map String.toList) := by
  rw [String.toList_intercalate]
  rfl

/-- The tags of an output are the only lines that make up the trimmed output. -/
theorem splitTags_eq_iff {output : String} {tags : List String} :
    splitTags output = tags ↔
      tags ≠ [] ∧ (∀ tag ∈ tags, '\n' ∉ tag.toList) ∧ "\n".intercalate tags = trimmed output := by
  have hchars (texts : List (List Char)) : (texts.map String.ofList).map String.toList = texts := by
    simp [Function.comp_def]
  rw [splitTags, pieces]
  constructor
  · rintro rfl
    refine ⟨by simpa using splitOn_ne_nil _ _, ?_, ?_⟩
    · intro tag htag
      obtain ⟨piece, hpiece, rfl⟩ := List.mem_map.1 htag
      rw [String.toList_ofList]
      intro hmem
      exact (mem_of_mem_splitOn hpiece hmem).2 rfl
    · rw [← String.toList_inj, toList_joined, hchars, splitOn_eq, List.intercalate_splitOn]
  · rintro ⟨hne, hunbroken, hjoined⟩
    have hlines : ∀ line ∈ tags.map String.toList, '\n' ∉ line :=
      List.forall_mem_map.2 hunbroken
    rw [← hjoined, toList_joined, splitOn_eq,
      List.splitOn_intercalate '\n' hlines (by simpa using hne)]
    simp [Function.comp_def]

/-- Where there is no tag the only line is empty. -/
theorem splitTags_eq_singleton_empty_iff {output : String} :
    splitTags output = [""] ↔ Blank output := by
  rw [splitTags_eq_iff, ← trimmed_eq_empty_iff, String.intercalate_singleton]
  constructor
  · rintro ⟨-, -, hempty⟩
    exact hempty.symm
  · intro hempty
    exact ⟨List.cons_ne_nil _ _, by simp, hempty.symm⟩

theorem printed_eq {names : List String} (hne : names ≠ []) :
    printed names = "\n".intercalate names ++ "\n" := by
  induction names with
  | nil => exact absurd rfl hne
  | cons name later ih =>
      rw [printed, List.map_cons, String.join_cons, ← printed]
      cases later with
      | nil => simp [printed]
      | cons next rest =>
          rw [ih (List.cons_ne_nil _ _), String.intercalate_cons_cons]
          simp only [String.append_assoc]

/-- The lines start with the first name and end with the last. -/
theorem Listable.unpadded {names : List String} (hnames : Listable names) :
    Unpadded ("\n".intercalate names).toList := by
  obtain ⟨hunbroken, ⟨first, hfirst, hfirstNe, hstart⟩, ⟨last, hlast, hlastNe, hend⟩⟩ := hnames
  constructor
  · obtain ⟨later, rfl⟩ := List.head?_eq_some_iff.1 hfirst
    have hbegins : ∃ rest, "\n".intercalate (first :: later) = first ++ rest := by
      cases later with
      | nil => exact ⟨"", by simp⟩
      | cons next rest => exact ⟨_, by rw [String.intercalate_cons_cons, String.append_assoc]⟩
    obtain ⟨rest, hrest⟩ := hbegins
    rwa [hrest, String.toList_append,
      List.head?_append_of_ne_nil _ (by simpa using hfirstNe)]
  · obtain ⟨init, rfl⟩ := List.getLast?_eq_some_iff.1 hlast
    have hlines : ∀ line ∈ (init ++ [last]).map String.toList, '\n' ∉ line :=
      List.forall_mem_map.2 hunbroken
    have hpieces : splitOn '\n' ("\n".intercalate (init ++ [last])).toList =
        init.map String.toList ++ [last.toList] := by
      rw [toList_joined, splitOn_eq, List.splitOn_intercalate '\n' hlines (by simp)]
      simp
    obtain ⟨front, hfront⟩ := last_piece_suffix hpieces
    rwa [← hfront, List.getLast?_append_of_ne_nil _ (by simpa using hlastNe)]

/-- The names that were printed are the tags that are read. -/
theorem Listable.splitTags_padded {names : List String} (hnames : Listable names)
    {before after : String} (hbefore : Blank before) (hafter : Blank after) :
    splitTags (before ++ printed names ++ after) = names := by
  have hne : names ≠ [] := by
    rintro rfl
    obtain ⟨first, hfirst, -⟩ := hnames.starts
    cases hfirst
  refine splitTags_eq_iff.2 ⟨hne, hnames.unbroken, ?_⟩
  have hend : ∀ c ∈ '\n' :: after.toList, isBlank c :=
    List.forall_mem_cons.2 ⟨rfl, hafter⟩
  have htext : (before ++ printed names ++ after).toList =
      before.toList ++ ("\n".intercalate names).toList ++ '\n' :: after.toList := by
    simp [printed_eq hne]
  rw [trimmed, htext, trim_padded hbefore hend hnames.unpadded, String.ofList_toList]

/-! ## Tags that are recorded -/

namespace Collector

variable {collector : Collector} {shows : Instant → Prop} {ran : List Exchange}
  {outcome : Except QueryFailure Metadata}

theorem KnowsCommit.not_mem_tags {commit : String} (hcommit : collector.KnowsCommit ran commit)
    (answer : Child.Outcome) : (collector.versionControl.command .tagsAtHead, answer) ∉ ran := by
  cases hcommit with
  | given => exact List.not_mem_nil
  | asked hgiven output =>
      intro hmem
      exact head_ne_tagsAtHead _ (congrArg Prod.fst (List.mem_singleton.1 hmem)).symm

/-- Once the question for the tags is answered the metadata are there, with the tags in the
answer. -/
theorem Dialogue.records_tags (hdialogue : collector.Dialogue shows ran outcome) {output : String}
    (hmem : (collector.versionControl.command .tagsAtHead, .ok output) ∈ ran) :
    ∃ metadata, outcome = .ok metadata ∧ metadata.tags = some (splitTags output) := by
  cases hdialogue with
  | headFailed hgiven cause => simp at hmem
  | tagsFailed hcommit cause =>
      rcases List.mem_append.1 hmem with hearlier | hlast
      · exact absurd hearlier (hcommit.not_mem_tags _)
      · simp at hlast
  | collected hcommit answer hnow =>
      rcases List.mem_append.1 hmem with hearlier | hlast
      · exact absurd hearlier (hcommit.not_mem_tags _)
      · obtain rfl : output = answer := by simpa using hlast
        exact ⟨_, rfl, rfl⟩

end Collector

/-- The tags that are read off an output are the one way to cut what is left of it at its ends into
lines, and a single empty tag if nothing is left.  Names that version control prints one to a line,
with any white space around them all, are read again as they are, and recorded so by the collector
that asked for them. -/
theorem splitTags_reads_printed (output : String) :
    (∀ tags, splitTags output = tags ↔
      tags ≠ [] ∧ (∀ tag ∈ tags, '\n' ∉ tag.toList) ∧ "\n".intercalate tags = trimmed output) ∧
    (splitTags output = [""] ↔ Blank output) ∧
    ∀ names before after, Listable names → Blank before → Blank after →
      output = before ++ printed names ++ after →
        splitTags output = names ∧
        ∀ {σ : Type} (outside : Outside σ) (state : σ) (collector : Collector),
          let performance := collector.collect.perform outside state
          collector.collected = none →
          (collector.versionControl.command .tagsAtHead, .ok output) ∈
            exchangesOf performance.effects →
          ∃ metadata, performance.value.1 = .ok metadata ∧ metadata.tags = some names := by
  refine ⟨fun _ => splitTags_eq_iff, splitTags_eq_singleton_empty_iff, ?_⟩
  rintro names before after hnames hbefore hafter rfl
  have hread := hnames.splitTags_padded hbefore hafter
  refine ⟨hread, ?_⟩
  intro σ outside state collector performance hfresh hasked
  obtain ⟨-, hdialogue⟩ := Collector.collect_traces (Plan.perform_traces outside _ state)
  rw [hfresh] at hdialogue
  obtain ⟨metadata, houtcome, htags⟩ := hdialogue.records_tags hasked
  exact ⟨metadata, houtcome, by rw [htags, hread]⟩

/-- Two equal tags with an empty one and a padded one between them. -/
theorem splitTags_reads_repeated_names :
    let names := ["v1.0.0", "", " latest\u3000", "v1.0.0"]
    let output := "\t" ++ printed names ++ "\r\n"
    let collector : Collector := .ofSettings { commit := some "abc1234" }
    let performance :=
      collector.collect.perform (Rehearsal.scripted .memory) ⟨[{ stdout := output }], []⟩
    Listable names ∧ splitTags output = names ∧
      ∃ metadata, performance.value.1 = .ok metadata ∧ metadata.tags = some names := by
  intro names output collector performance
  have hstart : ∀ c ∈ "v1.0.0".toList.head?, ¬isBlank c := by
    rintro c ⟨⟩
    decide
  have hend : ∀ c ∈ "v1.0.0".toList.getLast?, ¬isBlank c := by
    rintro c ⟨⟩
    decide
  have hnames : Listable names :=
    ⟨by decide, ⟨"v1.0.0", rfl, by decide, hstart⟩, ⟨"v1.0.0", rfl, by decide, hend⟩⟩
  obtain ⟨hread, hrecorded⟩ := (splitTags_reads_printed output).2.2 names "\t" "\r\n" hnames
    (by decide) (by decide) rfl
  have hasked : exchangesOf performance.effects =
      [(collector.versionControl.command .tagsAtHead, .ok output)] := rfl
  exact ⟨hnames, hread, hrecorded (Rehearsal.scripted .memory) _ collector rfl
    (hasked ▸ List.mem_singleton_self _)⟩

end ArtifactRelease
