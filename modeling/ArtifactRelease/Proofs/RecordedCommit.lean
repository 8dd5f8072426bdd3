import ArtifactRelease.Proofs.ConfigArgument
import ArtifactRelease.Proofs.RepeatedRuns
import ArtifactRelease.Proofs.SettingsReading

/-!
# The commit that is recorded

A commit that the environment gives is never empty.  One that version control is asked for is the
answer without the white space at its ends, and whether anything is left of that is not looked at.
So the commit on record, and in every configuration for the artifact builder, is empty exactly if
the question for the head was answered with white space alone.
-/

namespace ArtifactRelease

open ArtifactRelease.Text Json

variable {σ : Type} {environment : Environment}

/-! ## Blank answers -/

/-- The question for the head was answered, but with nothing other than white space. -/
def AnsweredBlank (ran : List Exchange) : Prop :=
  ∃ output, Blank output ∧ (headQuestion, .ok output) ∈ ran

instance (ran : List Exchange) : Decidable (AnsweredBlank ran) :=
  decidable_of_iff (∃ exchange ∈ ran, exchange.1 = headQuestion ∧
      ∃ output ∈ exchange.2.toOption, Blank output) <| by
    constructor
    · rintro ⟨⟨_, _ | answer⟩, hmem, rfl, output, houtput, hblank⟩
      · cases houtput
      · obtain rfl : answer = output := Option.some.inj houtput
        exact ⟨answer, hblank, hmem⟩
    · rintro ⟨output, hblank, hmem⟩
      exact ⟨_, hmem, rfl, output, rfl, hblank⟩

theorem answeredBlank_append_iff {asked later : List Exchange}
    (hlater : ∀ exchange ∈ later, exchange.1 ≠ headQuestion) :
    AnsweredBlank (asked ++ later) ↔ AnsweredBlank asked := by
  constructor
  · rintro ⟨output, hblank, hmem⟩
    rcases List.mem_append.1 hmem with hasked | hbehind
    · exact ⟨output, hblank, hasked⟩
    · exact absurd rfl (hlater _ hbehind)
  · rintro ⟨output, hblank, hmem⟩
    exact ⟨output, hblank, List.mem_append_left later hmem⟩

/-! ## What a collector records -/

namespace Collector

variable {shows : Instant → Prop} {ran : List Exchange}

/-- A given commit is not empty, and of an answer nothing is left exactly if it is blank. -/
theorem KnowsCommit.eq_empty_iff {commit : String}
    (hcommit : (ofSettings environment.settings).KnowsCommit ran commit) :
    commit = "" ↔ AnsweredBlank ran := by
  cases hcommit with
  | given hgiven =>
      have hentry : ("COMMIT", some commit) ∈ environment.settings.named := by
        have hsetting : environment.settings.commit = some commit := hgiven
        simp [Settings.named, hsetting]
      obtain ⟨hne, -⟩ := environment.wellFormed_settings.texts _ hentry commit rfl
      simp [AnsweredBlank, hne]
  | asked hgiven output =>
      have hquestion : (ofSettings environment.settings).versionControl.command .head =
          headQuestion := rfl
      simp [AnsweredBlank, hquestion, trimmed_eq_empty_iff]

theorem Dialogue.commit_eq_empty_iff {metadata : Metadata}
    (hdialogue : (ofSettings environment.settings).Dialogue shows ran (.ok metadata)) :
    metadata.commit = "" ↔ AnsweredBlank ran := by
  cases hdialogue with
  | collected hcommit output hnow =>
      rw [answeredBlank_append_iff, ← hcommit.eq_empty_iff, record]
      exact List.forall_mem_singleton.2 (head_ne_tagsAtHead _).symm

/-- Nothing is asked but for the head, if no commit is given, and for the tags. -/
theorem Dialogue.question_cases {outcome : Except QueryFailure Metadata}
    (hdialogue : (ofSettings environment.settings).Dialogue shows ran outcome)
    {exchange : Exchange} (hmem : exchange ∈ ran) :
    exchange.1 = headQuestion ∧ environment.setting "COMMIT" = none ∨
      exchange.1 = tagsQuestion := by
  have hquestion : exchange.1 ∈ (ofSettings environment.settings).questions :=
    hdialogue.prefix_questions.subset (List.mem_map_of_mem hmem)
  have hsetting : environment.settings.commit = environment.setting "COMMIT" := rfl
  rw [questions_ofSettings, hsetting] at hquestion
  cases hgiven : environment.setting "COMMIT" with
  | some commit => exact .inr (by simpa [hgiven] using hquestion)
  | none => simpa [hgiven] using hquestion

theorem Dialogue.unset_of_answeredBlank {outcome : Except QueryFailure Metadata}
    (hdialogue : (ofSettings environment.settings).Dialogue shows ran outcome)
    (hanswered : AnsweredBlank ran) : environment.setting "COMMIT" = none := by
  obtain ⟨output, -, hmem⟩ := hanswered
  rcases hdialogue.question_cases hmem with ⟨-, hunset⟩ | htags
  · exact hunset
  · exact absurd htags (head_ne_tagsAtHead {})

/-- No question comes with a configuration. -/
theorem Dialogue.arguments_ne_publish {outcome : Except QueryFailure Metadata}
    (hdialogue : (ofSettings environment.settings).Dialogue shows ran outcome)
    {exchange : Exchange} (hmem : exchange ∈ ran) (leading : List String) (text : String) :
    exchange.1.arguments ≠ leading ++ ["publish", "--config", text] := by
  rcases hdialogue.question_cases hmem with ⟨hquestion, -⟩ | hquestion
  · rw [hquestion]
    exact Query.head.arguments_ne_publish leading text
  · rw [hquestion]
    exact Query.tagsAtHead.arguments_ne_publish leading text

end Collector

/-! ## What a publisher goes on with -/

namespace Publisher

variable {publisher : Publisher} {outcome : Except QueryFailure Metadata}

/-- A configuration on the command line is the one for the metadata. -/
theorem BuildsUnder.config_eq {command : Child.Command}
    (hbuilds : publisher.BuildsUnder outcome command) {text : String}
    (harguments :
      command.arguments = publisher.builders.builder.leading ++ ["publish", "--config", text]) :
    ∃ metadata, outcome = .ok metadata ∧
      text = (BuildConfig.assemble publisher.settings metadata).json.compact := by
  obtain ⟨metadata, houtcome, rfl | ⟨operation, location, rfl⟩⟩ := hbuilds
  · exact ⟨metadata, houtcome, Builder.eq_of_publishCommand_arguments harguments⟩
  · exact absurd harguments (Builder.listCommand_arguments_ne_publish _ _ _ _ _)

/-- A report has the metadata that collecting has come to. -/
theorem EndsBy.outcome_eq {report : Report} (hends : EndsBy outcome (.ok report)) :
    outcome = .ok report.metadata := by
  cases outcome with
  | error failure => cases hends
  | ok metadata => rw [hends.1 report rfl]

/-- A new publisher lets its collector ask, in the first call, and runs nothing else in any call but
the artifact builder, under what the collector has come to. -/
theorem publishAll_course (hfresh : publisher.collector.collected = none) (outside : Outside σ)
    (options : PublishOptions) (later : List PublishOptions) (state : σ) :
    let whole := (publisher.publishAll (options :: later)).perform outside state
    ∃ asked built outcome, exchangesOf whole.effects = asked ++ built ∧
      publisher.collector.Dialogue outside.Shows asked outcome ∧
      (∀ exchange ∈ built, publisher.BuildsUnder outcome exchange.1) ∧
      ∀ result ∈ whole.value.1, EndsBy outcome result := by
  intro whole
  obtain ⟨asked, begun, outcome, result, calls, hran, hresults, -, hends, hacts, hrepeats,
    hdialogue⟩ := publishAll_calls outside publisher options later state
  rw [hfresh] at hdialogue
  refine ⟨exchangesOf asked, _, outcome, hran, hdialogue, ?_, ?_⟩
  · intro exchange hmem
    rcases List.mem_append.1 hmem with hbegun | hlater
    · exact hacts.buildsUnder (mem_commandsOf hbegun)
    · rw [exchangesOf_calls] at hlater
      obtain ⟨call, hcall, hmade⟩ := List.mem_flatMap.1 hlater
      exact (hrepeats call hcall).acts.buildsUnder (mem_commandsOf hmade)
  · have hresults : whole.value.1 = result :: calls.map Call.result := hresults
    rw [hresults, List.forall_mem_cons, List.forall_mem_map]
    exact ⟨hends, fun call hcall => (hrepeats call hcall).ends⟩

end Publisher

/-! ## Configurations -/

def Json.Value.at? : Json.Value → List String → Option Json.Value
  | value, [] => some value
  | .object fields, key :: path => (fields.lookup key).bind (·.at? path)
  | _, _ :: _ => none

/-- An optional field does not hide those behind it. -/
theorem lookup_optionalField_append {key name : String} (hne : key ≠ name) (text : Option String)
    (later : List (String × Json.Value)) :
    (Value.optionalField name text ++ later).lookup key = later.lookup key := by
  cases text with
  | none => rfl
  | some text => simp [Value.optionalField, List.lookup_cons, beq_false_of_ne hne]

theorem BuildConfig.commit_at? (config : BuildConfig) :
    config.json.at? ["buildRecordMeta", "commit"] = some (.string config.metadata.commit) := by
  simp [BuildConfig.json, Metadata.json, Value.at?, lookup_optionalField_append, List.lookup_cons]

/-! ## Empty commits -/

/-- What is recorded as the commit is empty exactly if version control answered the question for
the head with white space alone, which is only asked where the environment gives no commit.  That
holds for a collector, for the metadata in every report of a publisher, and for the metadata in
every configuration that its artifact builder is given, in as many calls as there are. -/
theorem commit_empty_iff_answered_blank (outside : Outside σ) (environment : Environment)
    (builder : Builder) (options : PublishOptions) (later : List PublishOptions) (state : σ) :
    let settings := environment.settings
    let collector := Collector.ofSettings settings
    let publisher := Publisher.under settings builder
    let collecting := collector.collect.perform outside state
    let publishing := (publisher.publishAll (options :: later)).perform outside state
    let asked := exchangesOf collecting.effects
    let ran := exchangesOf publishing.effects
    (∀ metadata, collecting.value.1 = .ok metadata →
      (metadata.commit = "" ↔ AnsweredBlank asked)) ∧
    (∀ report, .ok report ∈ publishing.value.1 →
      (report.metadata.commit = "" ↔ AnsweredBlank ran)) ∧
    (∀ exchange ∈ ran, ∀ text,
      exchange.1.arguments = builder.leading ++ ["publish", "--config", text] →
        ∃ config commit, Json.parse text = .ok config ∧
          config.at? ["buildRecordMeta", "commit"] = some (.string commit) ∧
          (commit = "" ↔ AnsweredBlank ran)) ∧
    (AnsweredBlank asked ∨ AnsweredBlank ran → environment.setting "COMMIT" = none) := by
  intro settings collector publisher collecting publishing asked ran
  have hcollecting : collector.Dialogue outside.Shows asked collecting.value.1 :=
    (Collector.collect_traces (Plan.perform_traces outside collector.collect state)).2
  obtain ⟨questions, built, outcome, hcourse, hdialogue, hbuilt, hends⟩ :=
    publisher.publishAll_course rfl outside options later state
  have hran : ran = questions ++ built := hcourse
  have hblank : AnsweredBlank ran ↔ AnsweredBlank questions := by
    rw [hran]
    apply answeredBlank_append_iff
    intro exchange hmem
    exact (hbuilt exchange hmem).ne_question _ .head
  refine ⟨?_, ?_, ?_, ?_⟩
  · intro metadata hcollected
    rw [hcollected] at hcollecting
    exact hcollecting.commit_eq_empty_iff
  · intro report hmem
    rw [(hends _ hmem).outcome_eq] at hdialogue
    rw [hblank, hdialogue.commit_eq_empty_iff]
  · intro exchange hmem text harguments
    rw [hran] at hmem
    rcases List.mem_append.1 hmem with hquestion | hcommand
    · exact absurd harguments (hdialogue.arguments_ne_publish hquestion _ text)
    · obtain ⟨metadata, houtcome, rfl⟩ := (hbuilt exchange hcommand).config_eq harguments
      rw [houtcome] at hdialogue
      refine ⟨_, metadata.commit, BuildConfig.parse_json _, BuildConfig.commit_at? _, ?_⟩
      rw [hblank, hdialogue.commit_eq_empty_iff]
  · rintro (hanswered | hanswered)
    · exact hcollecting.unset_of_answeredBlank hanswered
    · exact hdialogue.unset_of_answeredBlank (hblank.1 hanswered)

/-- White space around an answer is no harm: what is left of it is recorded in every call. -/
theorem padded_answer_recorded :
    let environment : Environment := fun name =>
      if name = "ARTIFACT_BUCKET" then some "artifacts" else none
    let builder : Builder := ⟨"ts-artifact-builder", []⟩
    let stage : Rehearsal.Stage := ⟨[{ stdout := "\u3000f00dfee\n", times := some 1 }], []⟩
    let publishing := ((Publisher.under environment.settings builder).publishAll
      [{ publish := true }, {}]).perform (Rehearsal.scripted .memory) stage
    ¬AnsweredBlank (exchangesOf publishing.effects) ∧
      publishing.value.1.map Except.isOk = [true, true] ∧
      ∀ report, .ok report ∈ publishing.value.1 → report.metadata.commit ≠ "" := by
  intro environment builder stage publishing
  have hanswered : ¬AnsweredBlank (exchangesOf publishing.effects) := by decide
  obtain ⟨-, hrecorded, -⟩ := commit_empty_iff_answered_blank (Rehearsal.scripted .memory)
    environment builder { publish := true } [{}] stage
  refine ⟨hanswered, by decide +kernel, ?_⟩
  -- with the run written out, nothing has to be performed to compare it
  subst publishing
  intro report hmem hempty
  exact hanswered ((hrecorded report hmem).1 hempty)

/-- A blank answer is recorded as the commit, and an artifact is published under it. -/
theorem blank_answer_published :
    let environment : Environment := fun name =>
      if name = "ARTIFACT_BUCKET" then some "artifacts" else none
    let collector := Collector.ofSettings environment.settings
    let publisher := Publisher.under environment.settings ⟨"ts-artifact-builder", []⟩
    let stage : Rehearsal.Stage := ⟨[{ stdout := "\n", times := some 1 }], []⟩
    let collecting := collector.collect.perform (Rehearsal.scripted .memory) stage
    let publishing :=
      (publisher.publish { publish := true }).perform (Rehearsal.scripted .memory) stage
    collecting.value.1.map (·.commit) = .ok "" ∧
      publishing.value.1.map (fun report =>
        (report.published, report.metadata.commit, report.config.metadata.commit)) =
          .ok (true, "", "") := by
  decide +kernel

end ArtifactRelease
