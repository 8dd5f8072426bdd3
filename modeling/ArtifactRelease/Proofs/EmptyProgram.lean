import ArtifactRelease.Proofs.RepeatedRuns
import ArtifactRelease.Proofs.WordGrammar
import ArtifactRelease.Rehearsal

/-!
# Programs without a name

The first word of the builder line is the program of the artifact builder, and a line without words
is refused.  Whether the word has any characters is not looked at.  One that is written in empty
quotes has none, so that with such a line a run asks version control first, and then has a program
without a name started.  It happens with no other line.
-/

namespace ArtifactRelease

namespace CommandWords

/-! ## Words that give nothing -/

def Enclosed.IsJoint : Enclosed → Prop
  | char _ _ => False
  | escaped c => c = '\n'

/-- Quotes with nothing in them but joined lines, or joined lines alone. -/
def Piece.IsHollow : Piece → Prop
  | char _ _ => False
  | escaped c => c = '\n'
  | single chars _ => chars = []
  | double inside => ∀ enclosed ∈ inside, enclosed.IsJoint

def Word.IsHollow (word : Word) : Prop :=
  ∀ piece ∈ word.pieces, piece.IsHollow

def Line.OpensHollow (line : Line) : Prop :=
  match line.ended, line.ending with
  | first :: _, _ => first.word.IsHollow
  | [], .word last _ => last.IsHollow
  | [], _ => False

theorem Enclosed.value_eq_nil_iff {enclosed : Enclosed} :
    enclosed.value = [] ↔ enclosed.IsJoint := by
  cases enclosed with
  | char c hc => simp [value, IsJoint]
  | escaped c =>
      rw [value, IsJoint]
      split_ifs with hfeed hescapable
      · simp [hfeed]
      · simp [hfeed]
      · simp [hfeed]

theorem Piece.value_eq_nil_iff {piece : Piece} : piece.value = [] ↔ piece.IsHollow := by
  cases piece with
  | char c hc => simp [value, IsHollow]
  | escaped c => simp [value, IsHollow]
  | single chars hchars => rfl
  | double inside =>
      rw [value, IsHollow, List.flatMap_eq_nil_iff]
      simp only [Enclosed.value_eq_nil_iff]

theorem Word.value_eq_nil_iff {word : Word} : word.value = [] ↔ word.IsHollow := by
  rw [value, IsHollow, List.flatMap_eq_nil_iff]
  simp only [Piece.value_eq_nil_iff]

/-- A hollow word at the start of a line is empty, and no other is.  The backslash that a line may
end in is a character of its word. -/
theorem Line.head?_words_iff {line : Line} : line.words.head? = some "" ↔ line.OpensHollow := by
  obtain ⟨_ | ⟨first, later⟩, gap, ending⟩ := line
  · cases ending with
    | nothing => simp [words, Ending.words, OpensHollow]
    | comment chars hchars => simp [words, Ending.words, OpensHollow]
    | word last hbegun => simp [words, Ending.words, OpensHollow, Word.value_eq_nil_iff]
    | backslash last => simp [words, Ending.words, OpensHollow]
  · simp [words, OpensHollow, Ended.value, Word.value_eq_nil_iff]

/-- The text is a line whose first word is hollow. -/
def StartsHollow (text : String) : Prop :=
  ∃ line : Line, line.text = text.toList ∧ line.OpensHollow

theorem startsHollow_iff {text : String} :
    StartsHollow text ↔ ∃ later, Spells text ("" :: later) := by
  constructor
  · rintro ⟨line, htext, hhollow⟩
    obtain ⟨later, hlater⟩ := List.head?_eq_some_iff.1 (Line.head?_words_iff.2 hhollow)
    exact ⟨later, line, htext, hlater⟩
  · rintro ⟨later, line, htext, hwords⟩
    exact ⟨line, htext, Line.head?_words_iff.1 (by rw [hwords]; rfl)⟩

instance : DecidablePred StartsHollow := fun text =>
  decidable_of_iff ((split? text).bind List.head? = some "") <| by
    rw [startsHollow_iff, Option.bind_eq_some_iff]
    constructor
    · rintro ⟨words, hsplit, hhead⟩
      obtain ⟨later, rfl⟩ := List.head?_eq_some_iff.1 hhead
      exact ⟨later, split?_eq_some_iff.1 hsplit⟩
    · rintro ⟨later, hspells⟩
      exact ⟨"" :: later, split?_eq_some_iff.2 hspells, rfl⟩

/-- Behind a comment and a joined line, two pairs of quotes with joined lines in them and between
them. -/
example : StartsHollow "# builder\n\\\n ''\\\n\"\\\n\" --quiet" := by decide

end CommandWords

open CommandWords

/-! ## What is made of a builder line -/

namespace Builder

theorem parse_eq_ok_iff_spells {text : String} {builder : Builder} :
    parse text = .ok builder ↔ Spells text (builder.program :: builder.leading) := by
  obtain ⟨program, leading⟩ := builder
  rw [← split?_eq_some_iff, parse]
  rcases split? text with _ | _ | ⟨first, later⟩
  · simp
  · simp
  · simp

theorem parse_eq_error_iff_spells {text : String} {failure : Failure} :
    parse text = .error failure ↔
      failure = .builderLine text .empty ∧ Spells text [] ∨
        failure = .builderLine text .openQuote ∧ ∀ words, ¬Spells text words := by
  rw [← split?_eq_some_iff, ← split?_eq_none_iff, parse]
  rcases split? text with _ | _ | ⟨first, later⟩
  · simp [eq_comm]
  · simp [eq_comm]
  · simp

theorem parse_eq_ok_empty_iff {text : String} :
    (∃ leading, parse text = .ok ⟨"", leading⟩) ↔ StartsHollow text := by
  simp only [startsHollow_iff, parse_eq_ok_iff_spells]

end Builder

/-! ## When the artifact builder is run -/

def programsOf (effects : List Effect) : List String :=
  (exchangesOf effects).map fun exchange => exchange.1.program

/-- With the options a run that has its metadata goes on to run the artifact builder. -/
def PublishOptions.RunsBuilder (options : PublishOptions) (settings : Settings) : Prop :=
  options.build ∧ settings.bucket.isSome ∧ (options.publish ∨ options.list)

theorem CutAtFailure.eq_nil_iff {commands : List Child.Command} {ran : List Exchange}
    (hcut : CutAtFailure commands ran) : ran = [] ↔ commands = [] := by
  cases hcut with
  | nil => simp
  | failed => simp
  | succeeded => simp

theorem Collector.Dialogue.program_eq {collector : Collector} {shows : Instant → Prop}
    {ran : List Exchange} {outcome : Except QueryFailure Metadata}
    (hdialogue : collector.Dialogue shows ran outcome) {exchange : Exchange}
    (hmem : exchange ∈ ran) : exchange.1.program = "git" := by
  have hquestion : exchange.1 ∈ collector.questions :=
    hdialogue.prefix_questions.subset (List.mem_map_of_mem hmem)
  rcases List.mem_append.1 hquestion with hhead | htags
  · split_ifs at hhead with hgiven
    · cases hhead
    · rw [List.mem_singleton.1 hhead]
      rfl
  · rw [List.mem_singleton.1 htags]
    rfl

namespace Publisher

variable {σ : Type} {outside : Outside σ} {settings : Settings} {builder : Builder}
  {publisher : Publisher} {options : PublishOptions} {effects : List Effect}
  {outcome : Except QueryFailure Metadata}

theorem runsBuilder_iff (config : BuildConfig) :
    options.RunsBuilder settings ↔
      buildSteps (.under settings builder) ⟨builder⟩ options config ≠ [] := by
  have hplace : settings.bucket.isSome ↔ ∃ location, settings.place? = some location := by
    rw [← Option.isSome_iff_exists, Settings.place?, Option.isSome_map]
  rw [PublishOptions.RunsBuilder, hplace]
  constructor
  · rintro ⟨hbuild, ⟨location, hlocation⟩, hpublish | hlist⟩
    · exact List.ne_nil_of_mem
        (mem_buildSteps_under.2 ⟨hbuild, location, hlocation, .inl ⟨hpublish, rfl⟩⟩)
    · exact List.ne_nil_of_mem
        (mem_buildSteps_under.2 ⟨hbuild, location, hlocation, .inr ⟨hlist, .scan, rfl⟩⟩)
  · intro hsome
    obtain ⟨step, hstep⟩ := List.exists_mem_of_ne_nil _ hsome
    obtain ⟨hbuild, location, hlocation, ⟨hpublish, -⟩ | ⟨hlist, -⟩⟩ :=
      mem_buildSteps_under.1 hstep
    · exact ⟨hbuild, ⟨location, hlocation⟩, .inl hpublish⟩
    · exact ⟨hbuild, ⟨location, hlocation⟩, .inr hlist⟩

/-- What a call runs after collecting is the artifact builder alone, and that if the options are
for it. -/
theorem ActsBy.mem_programsOf_iff (hacts : (under settings builder).ActsBy options outcome effects)
    {program : String} :
    program ∈ programsOf effects ↔
      program = builder.program ∧ outcome.isOk ∧ options.RunsBuilder settings := by
  have hprogram (exchange : Exchange) (hmem : exchange ∈ exchangesOf effects) :
      exchange.1.program = builder.program :=
    -- both factories have the same builder
    (hacts.buildsUnder (mem_commandsOf hmem)).program_eq.elim id id
  have hruns : exchangesOf effects ≠ [] ↔
      outcome.isOk ∧ options.RunsBuilder settings := by
    cases outcome with
    | error failure =>
        have hnone : commandsOf effects = [] := hacts.1
        rw [commandsOf_eq_map_exchangesOf, List.map_eq_nil_iff] at hnone
        simp [hnone, Except.isOk, Except.toBool]
    | ok metadata =>
        have hcut : CutAtFailure ((buildSteps (.under settings builder) ⟨builder⟩ options
            (BuildConfig.assemble settings metadata)).map RunStep.command)
            (exchangesOf effects) := hacts
        rw [ne_eq, hcut.eq_nil_iff, List.map_eq_nil_iff, ← ne_eq, ← runsBuilder_iff]
        simp [Except.isOk, Except.toBool]
  rw [← hruns, programsOf, List.mem_map]
  constructor
  · rintro ⟨exchange, hmem, rfl⟩
    exact ⟨hprogram exchange hmem, List.ne_nil_of_mem hmem⟩
  · rintro ⟨rfl, hsome⟩
    obtain ⟨exchange, hmem⟩ := List.exists_mem_of_ne_nil _ hsome
    exact ⟨exchange, hmem, hprogram exchange hmem⟩

theorem EndsBy.isOk_iff {result : Except Failure Report} (hends : EndsBy outcome result) :
    outcome.isOk ↔ ∀ failure, result ≠ .error (.metadata failure) := by
  cases outcome with
  | error failure =>
      have hresult : result = .error (.metadata failure) := hends
      simp [hresult, Except.isOk, Except.toBool]
  | ok metadata => simpa [Except.isOk, Except.toBool] using hends.2

theorem Repeats.mem_programsOf_iff {calls : List (Call σ)}
    (hrepeats : ∀ call ∈ calls, Repeats outside (under settings builder) outcome call)
    {program : String} :
    program ∈ programsOf (calls.flatMap Call.effects) ↔
      program = builder.program ∧ outcome.isOk ∧
        ∃ call ∈ calls, call.options.RunsBuilder settings := by
  have hmem : program ∈ programsOf (calls.flatMap Call.effects) ↔
      ∃ call ∈ calls, program ∈ programsOf call.effects := by
    rw [programsOf, exchangesOf_calls, List.map_flatMap, List.mem_flatMap]
    rfl
  rw [hmem]
  constructor
  · rintro ⟨call, hcall, hran⟩
    obtain ⟨hprogram, hok, hruns⟩ := (hrepeats call hcall).acts.mem_programsOf_iff.1 hran
    exact ⟨hprogram, hok, call, hcall, hruns⟩
  · rintro ⟨hprogram, hok, call, hcall, hruns⟩
    exact ⟨call, hcall, (hrepeats call hcall).acts.mem_programsOf_iff.2 ⟨hprogram, hok, hruns⟩⟩

/-- All calls find their metadata, or none does. -/
theorem EndsBy.isOk_iff_calls {result : Except Failure Report} {calls : List (Call σ)}
    (hends : EndsBy outcome result)
    (hrepeats : ∀ call ∈ calls, Repeats outside publisher outcome call) :
    outcome.isOk ↔ ∀ failure, .error (.metadata failure) ∉ result :: calls.map Call.result := by
  constructor
  · intro hok failure hmem
    rcases List.mem_cons.1 hmem with hfirst | hlater
    · exact hends.isOk_iff.1 hok failure hfirst.symm
    · obtain ⟨call, hcall, hresult⟩ := List.mem_map.1 hlater
      exact (hrepeats call hcall).ends.isOk_iff.1 hok failure hresult
  · intro hnone
    apply hends.isOk_iff.2
    rintro failure rfl
    exact hnone failure List.mem_cons_self

/-- In many calls a program other than version control is run exactly if it is the artifact
builder, some call is to run that, and none fails for its metadata. -/
theorem mem_programsOf_publishAll_iff (outside : Outside σ) (settings : Settings)
    (builder : Builder) (wanted : List PublishOptions) (state : σ) {program : String}
    (hprogram : program ≠ "git") :
    let whole := ((under settings builder).publishAll wanted).perform outside state
    program ∈ programsOf whole.effects ↔
      program = builder.program ∧
        (∃ options ∈ wanted, options.RunsBuilder settings) ∧
          ∀ failure, .error (.metadata failure) ∉ whole.value.1 := by
  intro whole
  cases wanted with
  | nil =>
      have hran : exchangesOf whole.effects = [] := rfl
      simp [programsOf, hran]
  | cons options later =>
      obtain ⟨asked, begun, outcome, result, calls, hran, hresults, rfl, hends, hacts, hrepeats,
        hcollected⟩ := publishAll_calls outside (under settings builder) options later state
      have hdialogue : (Collector.ofSettings settings).Dialogue outside.Shows (exchangesOf asked)
        outcome := hcollected
      have hasked : program ∉ programsOf asked := by
        intro hmem
        obtain ⟨exchange, hexchange, heq⟩ := List.mem_map.1 hmem
        exact hprogram (heq.symm.trans (hdialogue.program_eq hexchange))
      have hwhole : programsOf whole.effects =
          programsOf asked ++ (programsOf begun ++ programsOf (calls.flatMap Call.effects)) := by
        simp only [whole, programsOf, hran, List.map_append]
      have hcollects : outcome.isOk ↔ ∀ failure, .error (.metadata failure) ∉ whole.value.1 := by
        rw [hends.isOk_iff_calls hrepeats, ← hresults]
      calc program ∈ programsOf whole.effects
        _ ↔ program ∈ programsOf begun ∨ program ∈ programsOf (calls.flatMap Call.effects) := by
            rw [hwhole, List.mem_append, List.mem_append, or_iff_right hasked]
        _ ↔ program = builder.program ∧ outcome.isOk ∧
              (options.RunsBuilder settings ∨
                ∃ call ∈ calls, call.options.RunsBuilder settings) := by
            rw [hacts.mem_programsOf_iff, Repeats.mem_programsOf_iff hrepeats, ← and_or_left,
              ← and_or_left]
        _ ↔ _ := by
            rw [← hcollects, and_comm (a := outcome.isOk), List.exists_mem_cons_iff]
            simp only [List.mem_map, exists_exists_and_eq_and]

end Publisher

/-! ## Programs without a name -/

theorem Publisher.ofSettings_eq_error_iff {settings : Settings} {failure : Failure} :
    ofSettings settings = .error failure ↔
      Builder.parse settings.builderLine = .error failure := by
  rw [ofSettings_eq, Builder.ofSettings]
  cases Builder.parse settings.builderLine with
  | error found => simp [Except.map]
  | ok builder => simp [Except.map]

/-- An invocation to publish runs what one call of its publisher runs. -/
theorem CommandLine.programsOf_publish {σ : Type} {settings : Settings} {publisher : Publisher}
    (hfresh : Publisher.ofSettings settings = .ok publisher) (outside : Outside σ)
    (options : PublishOptions) (state : σ) :
    programsOf ((publish settings options).perform outside state).effects =
      programsOf ((publisher.publishAll [options]).perform outside state).effects := by
  obtain ⟨-, hcalls, -⟩ := Publisher.publishAll_perform outside publisher [options] state
  rw [programsOf, programsOf, hcalls, Publisher.history, Publisher.history,
    List.flatMap_singleton, publish, configured_of_fresh hfresh]
  simp only [Plan.perform_bind, Performance.after, exchangesOf_append]
  -- behind the call there is at most an event in the log
  cases ((publisher.publish options).perform outside state).value.1 with
  | error failure => exact congrArg (List.map _) (List.append_nil _)
  | ok report => exact congrArg (List.map _) (List.append_nil _)

/-- A builder line is refused, before anything is run, exactly if it spells no words, or only a
quote that is not closed keeps it from that.  Otherwise its first word is the program, also if that
is hollow: then the program has no name, and any calls that get to run the artifact builder have
such a program started.  No other line leads to that. -/
theorem empty_program_iff_startsHollow {σ : Type} (outside : Outside σ) (settings : Settings)
    (wanted : List PublishOptions) (state : σ) :
    (∀ text builder, Builder.parse text = .ok builder ↔
        Spells text (builder.program :: builder.leading)) ∧
      (∀ text failure, Builder.parse text = .error failure ↔
        failure = .builderLine text .empty ∧ Spells text [] ∨
          failure = .builderLine text .openQuote ∧ ∀ words, ¬Spells text words) ∧
      (∀ text, (∃ leading, Builder.parse text = .ok ⟨"", leading⟩) ↔ StartsHollow text) ∧
      match Publisher.ofSettings settings with
      | .error failure =>
        Builder.parse settings.builderLine = .error failure ∧
          ∀ options, (CommandLine.publish settings options).perform outside state =
            CommandLine.unconfigured failure state
      | .ok publisher =>
        let publishing := (publisher.publishAll wanted).perform outside state
        (∀ options,
          programsOf ((CommandLine.publish settings options).perform outside state).effects =
            programsOf ((publisher.publishAll [options]).perform outside state).effects) ∧
          ("" ∈ programsOf publishing.effects ↔
            StartsHollow settings.builderLine ∧
              (∃ options ∈ wanted, options.RunsBuilder settings) ∧
                ∀ failure, .error (.metadata failure) ∉ publishing.value.1) := by
  refine ⟨fun _ _ => Builder.parse_eq_ok_iff_spells, fun _ _ => Builder.parse_eq_error_iff_spells,
    fun _ => Builder.parse_eq_ok_empty_iff, ?_⟩
  cases hfresh : Publisher.ofSettings settings with
  | error failure =>
      exact ⟨Publisher.ofSettings_eq_error_iff.1 hfresh,
        fun options => CommandLine.publish_unconfigured hfresh options state⟩
  | ok publisher =>
      refine ⟨fun options => CommandLine.programsOf_publish hfresh outside options state, ?_⟩
      obtain ⟨program, leading, hwords, rfl⟩ := Publisher.ofSettings_eq_ok_iff.1 hfresh
      have hhollow : "" = program ↔ StartsHollow settings.builderLine := by
        simp only [startsHollow_iff, ← split?_eq_some_iff, hwords]
        simp [eq_comm]
      rw [← hhollow]
      exact Publisher.mem_programsOf_publishAll_iff outside settings _ wanted state (by decide)

/-- Empty quotes are not refused.  Version control is asked, and a run that lists the artifacts
fails only when a program without a name cannot be started. -/
theorem empty_quotes_started :
    let environment : Environment := fun name =>
      if name = "ARTIFACT_BUILDER" then some "''"
      else if name = "ARTIFACT_BUCKET" then some "artifacts"
      else none
    let head : Child.Script.Entry :=
      { line := some "git rev-parse --short HEAD", stdout := "f00dfee\n" }
    let performance := (CommandLine.publish environment.settings {}).perform
      (Rehearsal.staged [head] ["git"]) []
    Builder.parse "''" = .ok ⟨"", []⟩ ∧
      programsOf performance.effects = ["git", "git", ""] ∧
      performance.value = .error (CommandLine.errorText ["Deploy failed"]
        (.artifactList .scan (.notStarted "" Child.noSuchFile))) := by
  decide +kernel

end ArtifactRelease
