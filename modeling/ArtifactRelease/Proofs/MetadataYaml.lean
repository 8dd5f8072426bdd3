import ArtifactRelease.Metadata.Rendering
import ArtifactRelease.Proofs.Collection
import ArtifactRelease.Proofs.Lines
import ArtifactRelease.Proofs.YamlDocument
import ArtifactRelease.Rehearsal

/-!
# Collected metadata as a document

Metadata is shown as a document without the blanks at its end.  The entries of metadata settle it,
and the document settles the entries; what is lost at the end of a document is one line feed, as
long as the character before that is not a blank.  So it is with metadata that was collected, whose
last line is that of a tag, since there are no blanks at the end of the last tag.
-/

namespace ArtifactRelease

open ArtifactRelease.Text

namespace Yaml

/-! ## Last lines -/

/-- The text ends with a line feed behind a character that is not a blank. -/
def Closed (text : List Char) : Prop :=
  ∃ front c, ¬isBlank c ∧ text = front ++ [c, '\n']

theorem Closed.append_left {text : List Char} (htext : Closed text) (front : List Char) :
    Closed (front ++ text) := by
  obtain ⟨earlier, c, hc, rfl⟩ := htext
  exact ⟨front ++ earlier, c, hc, by rw [List.append_assoc]⟩

/-- A closed text loses its last line feed, and nothing else. -/
theorem Closed.trimEnd_concat {text : List Char} (htext : Closed text) :
    trimEnd text ++ ['\n'] = text := by
  obtain ⟨front, c, hc, rfl⟩ := htext
  have hend : trimEnd (front ++ [c, '\n']) = front ++ [c] := by
    change (front ++ [c, '\n']).rdropWhile isBlank = front ++ [c]
    rw [List.append_cons, List.rdropWhile_concat_pos _ _ _ rfl,
      List.rdropWhile_concat_neg _ _ _ hc]
  rw [hend, List.append_assoc, List.singleton_append]

theorem isBlank_of_isBreak {c : Char} (hc : isBreak c) : isBlank c := by
  simp only [isBreak, Bool.or_eq_true, decide_eq_true_eq] at hc
  rcases hc with (((rfl | rfl) | hc) | hc) | hc
  · rfl
  · rfl
  all_goals simp [isBlank, hc]

theorem closed_endLine (front : List Char) {c : Char} (hc : ¬isBlank c) :
    Closed (endLine (front ++ [c])) := by
  have hbreak : isBreak c = false := by
    rw [Bool.eq_false_iff]
    exact fun hbreak => hc (isBlank_of_isBreak hbreak)
  rw [endLine_concat_of_not_isBreak front hbreak]
  exact ⟨front, c, hc, by simp⟩

/-- The line of a scalar is closed, if its text is one line without blanks at its end. -/
theorem closed_scalar (indent : Nat) {text : List Char} (hline : '\n' ∉ text)
    (hlast : ∀ c ∈ text.getLast?, ¬isBlank c) : Closed (endLine (scalar indent text)) := by
  rw [scalar]
  cases hstyle : style text with
  | plain =>
      obtain ⟨c, later, htext, -⟩ := plain_shape hstyle
      have hne : text ≠ [] := by simp [htext]
      rw [← List.dropLast_concat_getLast hne]
      exact closed_endLine _ (hlast _ (List.getLast?_eq_some_getLast hne))
  | singleQuoted =>
      rw [singleQuoted, ← List.cons_append]
      exact closed_endLine _ (by decide)
  | doubleQuoted =>
      rw [doubleQuoted, ← List.cons_append]
      exact closed_endLine _ (by decide)
  | literal =>
      rw [style, if_neg hline] at hstyle
      split_ifs at hstyle

theorem renderFields_append (indent : Nat) (fields later : List (String × Node)) :
    renderFields indent (fields ++ later) =
      renderFields indent fields ++ renderFields indent later := by
  induction fields with
  | nil => rfl
  | cons field fields ih =>
      rw [List.cons_append, ← List.append_nil (renderFields indent (field :: _)),
        renderFields_cons_append, renderFields_cons_append, ih, List.append_nil]

/-- A document is closed, if its last line is that of an item without blanks at its end. -/
theorem closed_document (fields : List (String × Node)) (key : String) (items : List String)
    {last : String} (hline : '\n' ∉ last.toList) (hlast : ∀ c ∈ last.toList.getLast?, ¬isBlank c) :
    Closed (document (fields ++ [(key, .sequence (items ++ [last]))])) := by
  obtain ⟨item, later, hitems⟩ := List.exists_cons_of_ne_nil (List.concat_ne_nil last items)
  have hitem : Closed (itemLine 0 last) := by
    rw [← List.append_nil (itemLine 0 last), itemLine_append, List.append_nil]
    exact (closed_scalar 2 hline hlast).append_left (spaces 0 ++ ['-', ' '])
  have hlines : Closed ((items ++ [last]).flatMap (itemLine 0)) := by
    rw [List.flatMap_append, List.flatMap_singleton]
    exact hitem.append_left _
  have hfield : renderFields 0 [(key, .sequence (items ++ [last]))] =
      spaces 0 ++ key.toList ++ [':', '\n'] ++ (items ++ [last]).flatMap (itemLine 0) := by
    rw [hitems]
    simp [renderFields, Node.render_sequence]
  rw [document, renderFields_append, hfield]
  exact (hlines.append_left _).append_left _

/-! ## Entries -/

def textAt (key : String) (fields : List (String × Node)) : Option String :=
  match fields.lookup key with
  | some (.string text) => some text
  | _ => none

/-- The key of a field is a word, and so are all keys in its node. -/
def WordedField (field : String × Node) : Prop :=
  IsWord field.1 ∧ field.2.Worded

theorem Node.Worded.field {key : String} {node : Node} (hnode : node.Worded) (hkey : IsWord key) :
    WordedField (key, node) := ⟨hkey, hnode⟩

theorem Node.worded_mapping {fields : List (String × Node)}
    (hfields : ∀ field ∈ fields, WordedField field) : (mapping fields).Worded :=
  .mapping (fun field hfield => (hfields field hfield).1) fun field hfield =>
    (hfields field hfield).2

theorem worded_optionalEntry {key : String} (hkey : IsWord key) (text : Option String) :
    ∀ field ∈ optionalEntry key text, WordedField field := by
  cases text with
  | none => exact List.forall_mem_nil _
  | some text => exact List.forall_mem_singleton.2 ⟨hkey, .string text⟩

end Yaml

open Yaml

namespace RunInfo

def ofEntries (fields : List (String × Node)) : RunInfo :=
  ⟨textAt "id" fields, textAt "number" fields, textAt "attempt" fields⟩

theorem ofEntries_entries (info : RunInfo) : ofEntries info.entries = info := by
  obtain ⟨id, number, attempt⟩ := info
  cases id <;> cases number <;> cases attempt <;> rfl

theorem worded_entries (info : RunInfo) : (Node.mapping info.entries).Worded := by
  refine Node.worded_mapping ?_
  simp only [entries, List.forall_mem_append]
  exact ⟨⟨worded_optionalEntry (by decide) _, worded_optionalEntry (by decide) _⟩,
    worded_optionalEntry (by decide) _⟩

end RunInfo

namespace RunRecord

def ofEntries (fields : List (String × Node)) : Option RunRecord :=
  match fields.lookup "action", fields.lookup "run" with
  | some (.bool action), some (.mapping run) =>
    some
      { action
        job := textAt "job" fields
        run := .ofEntries run
        repository := textAt "repository" fields
        sha := textAt "sha" fields }
  | _, _ => none

theorem ofEntries_entries (record : RunRecord) : ofEntries record.entries = some record := by
  obtain ⟨action, job, run, repository, sha⟩ := record
  have hheld : ofEntries (entries ⟨action, job, run, repository, sha⟩) =
      some ⟨action, job, .ofEntries run.entries, repository, sha⟩ := by
    cases job <;> cases repository <;> cases sha <;> rfl
  rw [hheld, RunInfo.ofEntries_entries]

theorem worded_entries (record : RunRecord) : (Node.mapping record.entries).Worded := by
  have haction : WordedField ("action", .bool record.action) :=
    (Node.Worded.bool _).field (by decide)
  have hrun : WordedField ("run", .mapping record.run.entries) :=
    record.run.worded_entries.field (by decide)
  refine Node.worded_mapping ?_
  simp only [entries, List.forall_mem_append, List.forall_mem_singleton]
  exact ⟨⟨⟨⟨haction, worded_optionalEntry (by decide) _⟩, hrun⟩,
    worded_optionalEntry (by decide) _⟩, worded_optionalEntry (by decide) _⟩

end RunRecord

namespace Metadata

def ofEntries (fields : List (String × Node)) : Option Metadata :=
  match fields.lookup "commit", fields.lookup "createdAt" with
  | some (.string commit), some (.string createdAt) =>
    some
      { commit
        createdAt
        runRecord := match fields.lookup "githubData" with
          | some (.mapping record) => RunRecord.ofEntries record
          | _ => none
        tags := match fields.lookup "tags" with
          | some (.sequence tags) => some tags
          | _ => none }
  | _, _ => none

theorem ofEntries_entries (metadata : Metadata) : ofEntries metadata.entries = some metadata := by
  obtain ⟨commit, createdAt, runRecord, tags⟩ := metadata
  have hheld : ofEntries (entries ⟨commit, createdAt, runRecord, tags⟩) =
      some ⟨commit, createdAt, runRecord.bind fun record =>
        RunRecord.ofEntries record.entries, tags⟩ := by
    cases runRecord <;> cases tags <;> rfl
  rw [hheld]
  cases runRecord with
  | none => rfl
  | some record => rw [Option.bind_some, RunRecord.ofEntries_entries]

theorem worded_entries (metadata : Metadata) : (Node.mapping metadata.entries).Worded := by
  obtain ⟨commit, createdAt, runRecord, tags⟩ := metadata
  have hcommit : WordedField ("commit", .string commit) :=
    (Node.Worded.string _).field (by decide)
  have hcreatedAt : WordedField ("createdAt", .string createdAt) :=
    (Node.Worded.string _).field (by decide)
  refine Node.worded_mapping ?_
  simp only [entries, List.forall_mem_append, List.forall_mem_cons]
  refine ⟨⟨⟨hcommit, hcreatedAt, List.forall_mem_nil _⟩, ?_⟩, ?_⟩
  · cases runRecord with
    | none => exact List.forall_mem_nil _
    | some record =>
        exact List.forall_mem_singleton.2 (record.worded_entries.field (by decide))
  · cases tags with
    | none => exact List.forall_mem_nil _
    | some tags => exact List.forall_mem_singleton.2 ((Node.Worded.sequence tags).field (by decide))

/-- The whole document of metadata settles it. -/
theorem eq_of_document {metadata other : Metadata}
    (hdocument : document metadata.entries = document other.entries) : metadata = other := by
  have hentries := document_inj metadata.worded_entries other.worded_entries hdocument
  rw [← Option.some_inj, ← ofEntries_entries metadata, hentries, ofEntries_entries]

/-! ## Collected metadata -/

/-- A collector that has not been asked before comes to the metadata, in some world outside. -/
def Collected (metadata : Metadata) : Prop :=
  ∃ (σ : Type) (outside : Outside σ) (state : σ) (collector : Collector),
    collector.collected = none ∧
      (collector.collect.perform outside state).value.1 = .ok metadata

end Metadata

/-- There always is a last tag, if only an empty one, and it has no line feed and no blanks at its
end. -/
theorem exists_last_tag (output : String) :
    ∃ earlier last, splitTags output = earlier ++ [last] ∧ '\n' ∉ last.toList ∧
      ∀ c ∈ last.toList.getLast?, ¬isBlank c := by
  obtain ⟨init, last, hpieces⟩ : ∃ init last, splitOn '\n' (trim output.toList) = init ++ [last] :=
    ⟨_, _, (List.dropLast_concat_getLast (splitOn_ne_nil _ _)).symm⟩
  have hline : '\n' ∉ last := by
    intro hmem
    exact (mem_of_mem_splitOn (hpieces ▸ List.mem_concat_self) hmem).2 rfl
  have hlast : ∀ c ∈ last.getLast?, ¬isBlank c := by
    intro c hc
    obtain ⟨front, htext⟩ := last_piece_suffix hpieces
    have hlastNe : last ≠ [] := by
      rintro rfl
      cases hc
    refine (trim_unpadded output.toList).2 c ?_
    rwa [← htext, List.getLast?_append_of_ne_nil front hlastNe]
  refine ⟨init.map String.ofList, String.ofList last, ?_, ?_, ?_⟩
  · simp [splitTags, pieces, trimmed, hpieces]
  · rwa [String.toList_ofList]
  · rwa [String.toList_ofList]

namespace Metadata

/-- The document of collected metadata is closed. -/
theorem Collected.closed {metadata : Metadata} (hcollected : metadata.Collected) :
    Closed (document metadata.entries) := by
  obtain ⟨σ, outside, state, collector, hfresh, hvalue⟩ := hcollected
  have hdialogue := (Collector.collect_traces (collector.collect.perform_traces outside state)).2
  simp only [hfresh, hvalue] at hdialogue
  generalize exchangesOf _ = exchanges at hdialogue
  cases hdialogue with
  | @collected ran commit hcommit output now hnow =>
      obtain ⟨earlier, last, htags, hline, hlast⟩ := exists_last_tag output
      have hclosed := fun fields => closed_document fields "tags" earlier hline hlast
      simp only [Collector.record, entries, htags]
      exact hclosed _

/-- What is shown of collected metadata as a document settles the metadata. -/
theorem eq_of_render_yaml {metadata other : Metadata} (hcollected : metadata.Collected)
    (hother : other.Collected) (hshown : metadata.render .yaml = other.render .yaml) :
    metadata = other := by
  have hends : trimEnd (document metadata.entries) = trimEnd (document other.entries) :=
    String.ofList_inj.1 hshown
  refine eq_of_document ?_
  calc document metadata.entries
      = trimEnd (document metadata.entries) ++ ['\n'] := hcollected.closed.trimEnd_concat.symm
    _ = trimEnd (document other.entries) ++ ['\n'] := by rw [hends]
    _ = document other.entries := hother.closed.trimEnd_concat

/-- One collector asks for the commit, and one is given it; the answers are padded in two ways. -/
theorem collected_asked_or_given :
    let asked : Collector := .ofSettings {}
    let given : Collector := .ofSettings { commit := some "abc1234" }
    let commitLine : Child.Script.Entry :=
      { line := some "git rev-parse --short HEAD", stdout := "abc1234\n" }
    let tagsLine (stdout : String) : Child.Script.Entry :=
      { line := some "git tag --points-at HEAD", stdout }
    ∃ metadata other : Metadata,
      (asked.collect.perform (Rehearsal.scripted .memory)
        ⟨[commitLine, tagsLine "v1.0.0\nlatest\n"], []⟩).value.1 = .ok metadata ∧
      (given.collect.perform (Rehearsal.scripted .memory)
        ⟨[tagsLine " v1.0.0\nlatest"], []⟩).value.1 = .ok other ∧
      metadata.render .yaml =
        "commit: abc1234\ncreatedAt: 2023-11-14T22:13:20.123Z\ntags:\n- v1.0.0\n- latest" ∧
      metadata.render .yaml = other.render .yaml ∧ metadata = other := by
  intro asked given commitLine tagsLine
  have hasked : (asked.collect.perform (Rehearsal.scripted .memory)
      ⟨[commitLine, tagsLine "v1.0.0\nlatest\n"], []⟩).value.1 = .ok _ := rfl
  have hgiven : (given.collect.perform (Rehearsal.scripted .memory)
      ⟨[tagsLine " v1.0.0\nlatest"], []⟩).value.1 = .ok _ := rfl
  exact ⟨_, _, hasked, hgiven, by decide +kernel, by decide +kernel,
    eq_of_render_yaml ⟨_, _, _, asked, rfl, hasked⟩ ⟨_, _, _, given, rfl, hgiven⟩
      (by decide +kernel)⟩

/-- Line feeds at the end of a timestamp would be lost, if there were such. -/
example : ∃ metadata other : Metadata,
    metadata ≠ other ∧ metadata.render .yaml = other.render .yaml :=
  ⟨{ commit := "abc1234", createdAt := "now\n\n" },
    { commit := "abc1234", createdAt := "now\n\n\n" }, by decide, by decide +kernel⟩

end Metadata

end ArtifactRelease
