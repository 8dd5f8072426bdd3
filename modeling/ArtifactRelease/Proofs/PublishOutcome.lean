import ArtifactRelease.Proofs.PublishCommands
import ArtifactRelease.Rehearsal
import Mathlib.Data.List.Nodup
import Mathlib.Data.List.TakeWhile

/-!
# What comes of a run

A run succeeds if all its commands do, artifacts have a place and their list can be read.  If it
fails, its failure is about the first of these that did not hold, and the report on a run that
succeeds agrees with the commands that were run.
-/

namespace ArtifactRelease

open ArtifactRelease.Text

/-! ## Reading the artifact list -/

/-- A text with nothing but white space. -/
def Text.Blank (text : String) : Prop :=
  ∀ c ∈ text.toList, isBlank c

instance : DecidablePred Blank := fun text =>
  decidable_of_iff (text.toList.all isBlank) List.all_eq_true

theorem Text.trim_eq_nil_iff {text : List Char} : trim text = [] ↔ ∀ c ∈ text, isBlank c := by
  rw [trim, trimEnd, trimStart, List.reverse_eq_nil_iff, List.dropWhile_eq_nil_iff]
  constructor
  · intro hrest
    -- the first character that is not blank would be left
    rw [← List.dropWhile_eq_nil_iff]
    by_contra hleft
    have hhead := List.head_dropWhile_not isBlank hleft
    have hblank := hrest _ (List.mem_reverse.2 (List.head_mem hleft))
    simp [hblank] at hhead
  · intro hblank c hc
    exact hblank c (List.dropWhile_sublist _ |>.subset (List.mem_reverse.1 hc))

theorem Text.trimmed_eq_empty_iff {text : String} : trimmed text = "" ↔ Blank text := by
  rw [trimmed, ← String.toList_inj, String.toList_ofList]
  exact trim_eq_nil_iff

/-- A text that can be read as an artifact list. -/
def ReadableList (output : String) : Prop :=
  Blank output ∨ ∃ value, Json.parse output = .ok value

namespace Builder

variable {output : String}

theorem parseList_of_blank (hblank : Blank output) : parseList output = .ok .null := by
  rw [parseList, if_pos (by rwa [List.isEmpty_iff, trim_eq_nil_iff])]

theorem parseList_of_not_blank (hblank : ¬Blank output) :
    parseList output =
      match Json.parse output with
      | .ok value => .ok value
      | .error fault => .error (.json fault) := by
  rw [parseList]
  exact if_neg (by rwa [List.isEmpty_iff, trim_eq_nil_iff])

theorem parseList_eq_error_iff {failure : Failure} :
    parseList output = .error failure ↔
      ¬Blank output ∧ ∃ fault, failure = .json fault ∧ Json.parse output = .error fault := by
  by_cases hblank : Blank output
  · simp [parseList_of_blank hblank, hblank]
  · rw [parseList_of_not_blank hblank]
    cases hparse : Json.parse output with
    | ok value => simp
    | error fault => simp [hblank, eq_comm]

theorem parseList_eq_ok {value : Json.Value} (hvalue : parseList output = .ok value) :
    Blank output ∧ value = .null ∨ Json.parse output = .ok value := by
  by_cases hblank : Blank output
  · rw [parseList_of_blank hblank] at hvalue
    exact .inl ⟨hblank, (Except.ok.inj hvalue).symm⟩
  · rw [parseList_of_not_blank hblank] at hvalue
    cases hparse : Json.parse output with
    | ok parsed =>
        rw [hparse] at hvalue
        exact .inr (congrArg Except.ok (Except.ok.inj hvalue))
    | error fault =>
        rw [hparse] at hvalue
        cases hvalue

end Builder

/-! ## Telling commands apart -/

namespace Builder

variable {builder : Builder} {config : BuildConfig} {location : ArtifactLocation}

/-- The answer to a question is captured, and what the publishing command prints is not. -/
theorem question_ne_publishCommand (versionControl : VersionControl) (query : Query) :
    versionControl.command query ≠ builder.publishCommand config := by
  simp [VersionControl.command, publishCommand]

/-- A question has at most three arguments, and a command on the artifact list many more. -/
theorem question_ne_listCommand (versionControl : VersionControl) (query : Query)
    (operation : ListOperation) :
    versionControl.command query ≠ builder.listCommand operation location := by
  intro heq
  have hlength := congrArg (·.arguments.length) heq
  cases query <;> simp [VersionControl.command, Query.arguments, listCommand] at hlength

theorem query_ne_publishCommand (query : Query) :
    query.step.command ≠ builder.publishCommand config :=
  question_ne_publishCommand {} query

theorem query_ne_listCommand (query : Query) (operation : ListOperation) :
    query.step.command ≠ builder.listCommand operation location :=
  question_ne_listCommand {} query operation

theorem publishCommand_ne_listCommand (operation : ListOperation) :
    builder.publishCommand config ≠ builder.listCommand operation location := by
  simp [publishCommand, listCommand]

/-- The place is part of a command on the artifact list. -/
theorem eq_of_listCommand {place : ArtifactLocation} {operation other : ListOperation}
    (heq : builder.listCommand operation location = builder.listCommand other place) :
    location = place := by
  cases location
  cases place
  simp only [listCommand, Child.Command.mk.injEq, List.append_cancel_left_eq,
    List.cons.injEq] at heq
  simp [heq]

theorem listCommand_injective : Function.Injective (builder.listCommand · location) := by
  intro first second heq
  cases first <;> cases second <;> simp [listCommand] at heq ⊢

end Builder

theorem Query.step_injective {first second : Query}
    (heq : first.step.command = second.step.command) : first = second := by
  cases first <;> cases second <;> simp [step, VersionControl.command, arguments] at heq ⊢

namespace Publisher

variable {settings : Settings} {builder : Builder} {options : PublishOptions}
  {config : BuildConfig} {metadata : Metadata} {ran : List Exchange}

inductive Known (settings : Settings) (builder : Builder) (config : BuildConfig) : RunStep → Prop
  | query (query : Query) : Known settings builder config query.step
  | publishing : Known settings builder config (builder.publishing config)
  | listing {location : ArtifactLocation} (hplace : settings.place? = some location)
      (operation : ListOperation) :
      Known settings builder config (builder.listing location operation)

/-- A step is known by its command. -/
theorem Known.eq_of_command {first second : RunStep} (hfirst : Known settings builder config first)
    (hsecond : Known settings builder config second) (heq : first.command = second.command) :
    first = second := by
  cases hfirst with
  | query first =>
      cases hsecond with
      | query second => rw [Query.step_injective heq]
      | publishing => exact absurd heq (Builder.query_ne_publishCommand first)
      | listing _ operation => exact absurd heq (Builder.query_ne_listCommand first operation)
  | publishing =>
      cases hsecond with
      | query second => exact absurd heq.symm (Builder.query_ne_publishCommand second)
      | publishing => rfl
      | listing _ operation => exact absurd heq (Builder.publishCommand_ne_listCommand operation)
  | listing hplace first =>
      cases hsecond with
      | query second => exact absurd heq.symm (Builder.query_ne_listCommand second first)
      | publishing => exact absurd heq.symm (Builder.publishCommand_ne_listCommand first)
      | listing hplace' second =>
          obtain rfl := Option.some.inj (hplace.symm.trans hplace')
          rw [Builder.listCommand_injective heq]

theorem mem_querySteps {step : RunStep} (hmem : step ∈ querySteps settings) :
    ∃ query : Query, step = query.step ∧ query ≠ .allTags := by
  rw [querySteps, List.mem_append, List.mem_singleton] at hmem
  rcases hmem with hhead | rfl
  · split at hhead
    · simp at hhead
    · exact ⟨.head, List.mem_singleton.1 hhead, by decide⟩
  · exact ⟨.tagsAtHead, rfl, by decide⟩

theorem mem_buildSteps {builders : BuilderFactory} {lists : ListFactory} {step : RunStep} :
    step ∈ buildSteps builders lists options config ↔
      options.build = true ∧ ∃ location, builders.location? = .ok location ∧
        (options.publish = true ∧ step = builders.builder.publishing config ∨
          options.list = true ∧ ∃ operation, step = lists.builder.listing location operation) := by
  have hlisting (location : ArtifactLocation) :
      step ∈ lists.builder.listSteps location ↔
        ∃ operation, step = lists.builder.listing location operation := by
    simp only [Builder.listSteps, List.mem_cons, List.not_mem_nil, or_false]
    constructor
    · rintro (rfl | rfl)
      · exact ⟨.scan, rfl⟩
      · exact ⟨.read, rfl⟩
    · rintro ⟨_ | _, rfl⟩
      · exact .inl rfl
      · exact .inr rfl
  cases hbuild : options.build with
  | false => simp [buildSteps, hbuild]
  | true =>
      cases hlocation : builders.location? with
      | error failure => simp [buildSteps, hbuild, hlocation]
      | ok location =>
          simp only [buildSteps, hbuild, hlocation, List.mem_append]
          cases options.publish <;> cases options.list <;> simp [hlisting]

/-- The steps under settings go by the place that these name. -/
theorem mem_buildSteps_under {step : RunStep} :
    step ∈ buildSteps (.under settings builder) ⟨builder⟩ options config ↔
      options.build = true ∧ ∃ location, settings.place? = some location ∧
        (options.publish = true ∧ step = builder.publishing config ∨
          options.list = true ∧ ∃ operation, step = builder.listing location operation) := by
  simp only [mem_buildSteps, BuilderFactory.location?_under_eq_ok_iff]
  rfl

theorem known_of_mem_steps {step : RunStep}
    (hmem : step ∈ steps settings builder options metadata) :
    Known settings builder (BuildConfig.assemble settings metadata) step := by
  rcases List.mem_append.1 hmem with hquery | hbuild
  · obtain ⟨query, rfl, -⟩ := mem_querySteps hquery
    exact .query query
  · obtain ⟨-, location, hplace, ⟨-, rfl⟩ | ⟨-, operation, rfl⟩⟩ := mem_buildSteps_under.1 hbuild
    · exact .publishing
    · exact .listing hplace operation

/-- No command is run twice. -/
theorem nodup_commands (settings : Settings) (builder : Builder) (options : PublishOptions)
    (metadata : Metadata) :
    ((steps settings builder options metadata).map RunStep.command).Nodup := by
  have hquestions : ((querySteps settings).map RunStep.command).Nodup := by
    cases hcommit : settings.commit <;>
      simp [querySteps, hcommit, Query.step, VersionControl.command, Query.arguments]
  have hbuild : ((buildSteps (.under settings builder) ⟨builder⟩ options
      (BuildConfig.assemble settings metadata)).map RunStep.command).Nodup := by
    rw [buildSteps]
    split
    · next location _ _ =>
        have hlist : builder.listCommand .scan location ≠ builder.listCommand .read location :=
          Builder.listCommand_injective.ne (by decide)
        cases options.publish <;> cases options.list <;>
          simp [BuilderFactory.under, Builder.publishing, Builder.listSteps, Builder.listing, hlist,
            Builder.publishCommand_ne_listCommand]
    · simp
  rw [steps, List.map_append]
  refine List.Nodup.append hquestions hbuild ?_
  intro command hquestion hbuilding
  obtain ⟨asking, hasking, rfl⟩ := List.mem_map.1 hquestion
  obtain ⟨building, hmem, heq⟩ := List.mem_map.1 hbuilding
  obtain ⟨query, rfl, -⟩ := mem_querySteps hasking
  obtain ⟨-, location, -, ⟨-, rfl⟩ | ⟨-, operation, rfl⟩⟩ := mem_buildSteps_under.1 hmem
  · exact Builder.query_ne_publishCommand query heq.symm
  · exact Builder.query_ne_listCommand query operation heq.symm

/-- The artifact is packed if that is wanted and it has a place. -/
theorem publishCommand_mem_iff :
    builder.publishCommand (BuildConfig.assemble settings metadata) ∈
        (steps settings builder options metadata).map RunStep.command ↔
      options.build = true ∧ options.publish = true ∧ settings.place?.isSome := by
  constructor
  · intro hmem
    obtain ⟨step, hstep, heq⟩ := List.mem_map.1 hmem
    rcases List.mem_append.1 hstep with hquery | hbuilding
    · obtain ⟨query, rfl, -⟩ := mem_querySteps hquery
      exact absurd heq (Builder.query_ne_publishCommand query)
    · obtain ⟨hbuild, location, hplace, ⟨hpublish, rfl⟩ | ⟨-, operation, rfl⟩⟩ :=
        mem_buildSteps_under.1 hbuilding
      · exact ⟨hbuild, hpublish, by simp [hplace]⟩
      · exact absurd heq.symm (Builder.publishCommand_ne_listCommand operation)
  · rintro ⟨hbuild, hpublish, hplace⟩
    obtain ⟨location, hplace⟩ := Option.isSome_iff_exists.1 hplace
    refine List.mem_map.2 ⟨builder.publishing _, List.mem_append.2 (.inr ?_), rfl⟩
    exact mem_buildSteps_under.2 ⟨hbuild, location, hplace, .inl ⟨hpublish, rfl⟩⟩

/-- The artifacts of a place are listed if that is wanted, and if it is where artifacts go. -/
theorem listCommand_mem_iff {operation : ListOperation} {location : ArtifactLocation} :
    builder.listCommand operation location ∈
        (steps settings builder options metadata).map RunStep.command ↔
      options.build = true ∧ options.list = true ∧ settings.place? = some location := by
  constructor
  · intro hmem
    obtain ⟨step, hstep, heq⟩ := List.mem_map.1 hmem
    rcases List.mem_append.1 hstep with hquery | hbuilding
    · obtain ⟨query, rfl, -⟩ := mem_querySteps hquery
      exact absurd heq (Builder.query_ne_listCommand query operation)
    · obtain ⟨hbuild, place, hplace, ⟨-, rfl⟩ | ⟨hlist, other, rfl⟩⟩ :=
        mem_buildSteps_under.1 hbuilding
      · exact absurd heq (Builder.publishCommand_ne_listCommand operation)
      · rw [Builder.eq_of_listCommand heq] at hplace
        exact ⟨hbuild, hlist, hplace⟩
  · rintro ⟨hbuild, hlist, hplace⟩
    refine List.mem_map.2 ⟨builder.listing location operation, List.mem_append.2 (.inr ?_), rfl⟩
    exact mem_buildSteps_under.2 ⟨hbuild, location, hplace, .inr ⟨hlist, operation, rfl⟩⟩

/-! ## The verdict on a run -/

/-- All commands of a run were run, and all succeeded. -/
def RanThrough (settings : Settings) (builder : Builder) (options : PublishOptions)
    (metadata : Metadata) (ran : List Exchange) : Prop :=
  RunStep.Succeeded ran ∧
    ran.map Prod.fst = canonicalCommands settings builder.program builder.leading options
      (BuildConfig.assemble settings metadata)

structure Unobstructed (settings : Settings) (builder : Builder) (options : PublishOptions)
    (metadata : Metadata) (ran : List Exchange) : Prop where
  ranThrough : RanThrough settings builder options metadata ran
  placed : options.build = true → settings.bucket.isSome
  readable : options.build = true → options.list = true →
    ∀ location output, settings.place? = some location →
      (readCommand builder.program builder.leading location, .ok output) ∈ ran →
      ReadableList output

def Obstacle (settings : Settings) (builder : Builder) (options : PublishOptions)
    (metadata : Metadata) (ran : List Exchange) : Failure → Prop
  | .metadata ⟨.head, cause⟩ => (headQuestion, .error cause) ∈ ran
  | .metadata ⟨.tagsAtHead, cause⟩ => (tagsQuestion, .error cause) ∈ ran
  | .missingSetting name =>
    name = "ARTIFACT_BUCKET" ∧ options.build = true ∧ settings.bucket = none ∧
      RanThrough settings builder options metadata ran
  | .builder cause =>
    (publishingCommand builder.program builder.leading (BuildConfig.assemble settings metadata),
      .error cause) ∈ ran
  | .artifactList .scan cause =>
    ∃ location, settings.place? = some location ∧
      (scanCommand builder.program builder.leading location, .error cause) ∈ ran
  | .artifactList .read cause =>
    ∃ location, settings.place? = some location ∧
      (readCommand builder.program builder.leading location, .error cause) ∈ ran
  | .json fault =>
    ∃ location output, settings.place? = some location ∧
      RanThrough settings builder options metadata ran ∧
      (readCommand builder.program builder.leading location, .ok output) ∈ ran ∧
      ¬Blank output ∧ Json.parse output = .error fault
  | _ => False

/-- A report agrees with what was run. -/
structure Agrees (settings : Settings) (builder : Builder) (options : PublishOptions)
    (metadata : Metadata) (ran : List Exchange) (report : Report) : Prop where
  metadata_eq : report.metadata = metadata
  config_eq : report.config = BuildConfig.assemble settings report.metadata
  located : report.location.isSome = options.build
  location_eq : ∀ location, report.location = some location → settings.place? = some location
  scanned : ∀ location, scanCommand builder.program builder.leading location ∈ ran.map Prod.fst ↔
    options.list = true ∧ report.location = some location
  read : ∀ location, readCommand builder.program builder.leading location ∈ ran.map Prod.fst ↔
    options.list = true ∧ report.location = some location
  published_eq : report.published = (options.build && options.publish)
  published_once :
    (ran.map Prod.fst).count (publishingCommand builder.program builder.leading report.config) =
      if report.published then 1 else 0
  listed : report.artifactList.isSome = (options.build && options.list)
  list_eq : ∀ value, report.artifactList = some value →
    ∃ location output, (readCommand builder.program builder.leading location, .ok output) ∈ ran ∧
      (Blank output ∧ value = .null ∨ Json.parse output = .ok value)
  labels_eq : report.timings.labels =
    (if options.build && options.list then ["scan artifacts", "read list"] else []) ++ ["TOTAL"]

/-- What can be said about the result of a run, given the commands that were run. -/
structure Verdict (settings : Settings) (builder : Builder) (options : PublishOptions)
    (metadata : Metadata) (ran : List Exchange) (result : Except Failure Report) : Prop where
  ran_cut : CutAtFailure (canonicalCommands settings builder.program builder.leading options
    (BuildConfig.assemble settings metadata)) ran
  succeeds_iff : result.isOk ↔ Unobstructed settings builder options metadata ran
  fails_iff : ∀ failure, result = .error failure ↔
    Obstacle settings builder options metadata ran failure
  agrees : ∀ report, result = .ok report → Agrees settings builder options metadata ran report

/-- A run that was cut short is reported as the failure of its last command. -/
theorem obstacle_of_taken {failure : Failure}
    (htaken : RunStep.Taken (steps settings builder options metadata) ran (some failure)) :
    Obstacle settings builder options metadata ran failure := by
  obtain ⟨step, hstep, cause, hmem, rfl⟩ := htaken.exists_error
  rcases List.mem_append.1 hstep with hquery | hbuild
  · obtain ⟨query, rfl, hother⟩ := mem_querySteps hquery
    cases query with
    | head => exact hmem
    | tagsAtHead => exact hmem
    | allTags => exact absurd rfl hother
  · obtain ⟨-, location, hplace, ⟨-, rfl⟩ | ⟨-, operation, rfl⟩⟩ := mem_buildSteps_under.1 hbuild
    · exact hmem
    · cases operation with
      | scan => exact ⟨location, hplace, Builder.listCommand_scan builder location ▸ hmem⟩
      | read => exact ⟨location, hplace, Builder.listCommand_read builder location ▸ hmem⟩

/-- A command that failed accounts for the failure of its run. -/
theorem eq_of_error {step : RunStep} {cause : Child.Failure} {failure : Option Failure}
    (hknown : Known settings builder (BuildConfig.assemble settings metadata) step)
    (htaken : RunStep.Taken (steps settings builder options metadata) ran failure)
    (hmem : (step.command, .error cause) ∈ ran) : failure = some (step.failure cause) := by
  obtain ⟨found, hfound, hcommand, hfailure⟩ := htaken.of_error hmem
  rw [hfailure, (known_of_mem_steps hfound).eq_of_command hknown hcommand]

/-- An obstacle that is a command accounts for the failure of its run; otherwise nothing failed. -/
theorem Obstacle.eq_or_ranThrough {failure : Failure} {cut : Option Failure}
    (hobstacle : Obstacle settings builder options metadata ran failure)
    (htaken : RunStep.Taken (steps settings builder options metadata) ran cut) :
    cut = some failure ∨ RanThrough settings builder options metadata ran := by
  cases failure with
  | metadata failure =>
      obtain ⟨query, cause⟩ := failure
      cases query with
      | head => exact .inl (eq_of_error (.query .head) htaken hobstacle)
      | tagsAtHead => exact .inl (eq_of_error (.query .tagsAtHead) htaken hobstacle)
      | allTags => exact hobstacle.elim
  | builder cause => exact .inl (eq_of_error .publishing htaken hobstacle)
  | artifactList operation cause =>
      cases operation with
      | scan =>
          obtain ⟨location, hplace, hmem⟩ := hobstacle
          rw [← Builder.listCommand_scan] at hmem
          exact .inl (eq_of_error (.listing hplace .scan) htaken hmem)
      | read =>
          obtain ⟨location, hplace, hmem⟩ := hobstacle
          rw [← Builder.listCommand_read] at hmem
          exact .inl (eq_of_error (.listing hplace .read) htaken hmem)
  | missingSetting name => exact .inr hobstacle.2.2.2
  | json fault =>
      obtain ⟨location, output, -, hthrough, -⟩ := hobstacle
      exact .inr hthrough
  | _ => exact hobstacle.elim

theorem ranThrough_of_taken
    (htaken : RunStep.Taken (steps settings builder options metadata) ran none) :
    RanThrough settings builder options metadata ran := by
  obtain ⟨hsucceeded, hcommands⟩ := htaken.succeeded_of_none
  exact ⟨hsucceeded, by rw [hcommands, map_command_steps]⟩

theorem RanThrough.commands_eq (hthrough : RanThrough settings builder options metadata ran) :
    ran.map Prod.fst = (steps settings builder options metadata).map RunStep.command := by
  rw [hthrough.2, map_command_steps]

/-- A command has but one output. -/
theorem RanThrough.output_unique (hthrough : RanThrough settings builder options metadata ran)
    {command : Child.Command} {first second : Child.Outcome} (hfirst : (command, first) ∈ ran)
    (hsecond : (command, second) ∈ ran) : first = second := by
  have hnodup : (ran.map Prod.fst).Nodup := by
    rw [hthrough.commands_eq]
    exact nodup_commands settings builder options metadata
  exact (Prod.mk.inj (List.inj_on_of_nodup_map hnodup hfirst hsecond rfl)).2

/-- The report on a build agrees with a run if the outcome of the build has the right fields. -/
theorem RanThrough.agrees (hthrough : RanThrough settings builder options metadata ran)
    {outcome : BuildOutcome} {runId : RunId} {timings : Timings}
    (hconfig : outcome.config = BuildConfig.assemble settings metadata)
    (hlocation : outcome.location = if options.build then settings.place? else none)
    (hplaced : options.build = true → settings.place?.isSome)
    (hpublished : outcome.published = (options.build && options.publish))
    (hlisted : outcome.artifactList.isSome = (options.build && options.list))
    (hvalue : ∀ value, outcome.artifactList = some value →
      ∃ location output, (readCommand builder.program builder.leading location, .ok output) ∈ ran ∧
        (Blank output ∧ value = .null ∨ Json.parse output = .ok value))
    (hlabels : timings.labels =
      (if options.build && options.list then ["scan artifacts", "read list"] else [])
        ++ ["TOTAL"]) :
    Agrees settings builder options metadata ran (outcome.report runId metadata timings) where
  metadata_eq := rfl
  config_eq := hconfig
  located := by
    change outcome.location.isSome = _
    cases hbuild : options.build with
    | false => simp [hlocation, hbuild]
    | true => simp [hlocation, hbuild, hplaced hbuild]
  location_eq location hsome := by
    change outcome.location = some location at hsome
    cases hbuild : options.build <;> simp_all
  scanned location := by
    change _ ↔ _ ∧ outcome.location = some location
    rw [hthrough.commands_eq, ← Builder.listCommand_scan, listCommand_mem_iff, hlocation]
    cases options.build <;> simp
  read location := by
    change _ ↔ _ ∧ outcome.location = some location
    rw [hthrough.commands_eq, ← Builder.listCommand_read, listCommand_mem_iff, hlocation]
    cases options.build <;> simp
  published_eq := hpublished
  published_once := by
    change List.count (publishingCommand _ _ outcome.config) _ = if outcome.published then 1 else 0
    have hnodup := nodup_commands settings builder options metadata
    rw [hthrough.commands_eq, hconfig, ← Builder.publishCommand_eq, hnodup.count, hpublished]
    simp only [publishCommand_mem_iff, Bool.and_eq_true]
    cases hbuild : options.build with
    | false => simp
    | true => simp [hplaced hbuild]
  listed := hlisted
  list_eq := hvalue
  labels_eq := hlabels

/-- A run that took all its steps gives a report that agrees with it, or there is no place for
artifacts, or their list cannot be read. -/
theorem Ended.cases {result : Except Failure Report}
    (hthrough : RanThrough settings builder options metadata ran)
    (hended : Ended settings builder options metadata ran result) :
    (∃ report, result = .ok report ∧ Unobstructed settings builder options metadata ran ∧
      Agrees settings builder options metadata ran report) ∨
    (result = .error (.missingSetting "ARTIFACT_BUCKET") ∧ options.build = true ∧
      settings.bucket = none) ∨
    ∃ fault location output, result = .error (.json fault) ∧ options.build = true ∧
      options.list = true ∧ settings.place? = some location ∧
      (readCommand builder.program builder.leading location, .ok output) ∈ ran ∧
      ¬Blank output ∧ Json.parse output = .error fault := by
  obtain ⟨built, labels, runId, timings, hconcluded, hlabels, rfl⟩ := hended
  cases hconcluded with
  | unbuilt hbuild =>
      refine .inl ⟨_, rfl, ⟨hthrough, by simp [hbuild], by simp [hbuild]⟩, ?_⟩
      apply hthrough.agrees <;> simp [hbuild, hlabels]
  | unplaced hbuild hlocation =>
      cases hbucket : settings.bucket with
      | none =>
          rw [BuilderFactory.location?_under_eq_error hbucket] at hlocation
          cases hlocation
          exact .inr (.inl ⟨rfl, hbuild, rfl⟩)
      | some bucket => simp [BuilderFactory.location?, BuilderFactory.under, hbucket] at hlocation
  | unlisted hbuild hlocation hlist =>
      have hplace := BuilderFactory.location?_under_eq_ok_iff.1 hlocation
      refine .inl ⟨_, rfl, ⟨hthrough, ?_, by simp [hlist]⟩, ?_⟩
      · intro _
        exact Settings.bucket_isSome hplace
      · apply hthrough.agrees <;> simp [hbuild, hlist, hplace, hlabels]
  | @listed hbuild location hlocation hlist earlier output value hran hvalue =>
      have hplace := BuilderFactory.location?_under_eq_ok_iff.1 hlocation
      have hread : (readCommand builder.program builder.leading location, .ok output) ∈ ran := by
        rw [← Builder.listCommand_read, hran]
        simp
      have hparsed := Builder.parseList_eq_ok hvalue
      refine .inl ⟨_, rfl, ⟨hthrough, ?_, ?_⟩, ?_⟩
      · intro _
        exact Settings.bucket_isSome hplace
      · intro _ _ other output' hother hread'
        obtain rfl := Option.some.inj (hplace.symm.trans hother)
        obtain rfl := Except.ok.inj (hthrough.output_unique hread hread')
        exact hparsed.imp And.left fun hjson => ⟨value, hjson⟩
      · refine hthrough.agrees rfl ?_ ?_ ?_ ?_ ?_ ?_
        · simp [hbuild, hplace]
        · simp [hplace]
        · simp [hbuild]
        · simp [hbuild, hlist]
        · intro other hother
          obtain rfl := Option.some.inj hother
          exact ⟨location, output, hread, hparsed⟩
        · simp [hbuild, hlist, hlabels]
  | @unreadable hbuild location hlocation hlist earlier output failure hran hvalue =>
      have hplace := BuilderFactory.location?_under_eq_ok_iff.1 hlocation
      obtain ⟨hblank, fault, rfl, hparse⟩ := Builder.parseList_eq_error_iff.1 hvalue
      refine .inr (.inr ⟨fault, location, output, rfl, hbuild, hlist, hplace, ?_, hblank, hparse⟩)
      rw [← Builder.listCommand_read, hran]
      simp

/-- If no command failed, what stands in the way can only be one of two things. -/
theorem Obstacle.of_succeeded {failure : Failure}
    (hobstacle : Obstacle settings builder options metadata ran failure)
    (hthrough : RanThrough settings builder options metadata ran) :
    (failure = .missingSetting "ARTIFACT_BUCKET" ∧ options.build = true ∧
      settings.bucket = none) ∨
    ∃ fault location output, failure = .json fault ∧ settings.place? = some location ∧
      (readCommand builder.program builder.leading location, .ok output) ∈ ran ∧
      ¬Blank output ∧ Json.parse output = .error fault := by
  have hnone {command : Child.Command} {cause : Child.Failure} : (command, .error cause) ∉ ran := by
    intro hmem
    simpa [Except.isOk, Except.toBool] using hthrough.1 _ hmem
  cases failure with
  | metadata failure =>
      obtain ⟨query, cause⟩ := failure
      cases query with
      | head => exact absurd hobstacle hnone
      | tagsAtHead => exact absurd hobstacle hnone
      | allTags => exact hobstacle.elim
  | builder cause => exact absurd hobstacle hnone
  | artifactList operation cause =>
      cases operation with
      | scan =>
          obtain ⟨location, -, hmem⟩ := hobstacle
          exact absurd hmem hnone
      | read =>
          obtain ⟨location, -, hmem⟩ := hobstacle
          exact absurd hmem hnone
  | missingSetting name =>
      obtain ⟨rfl, hbuild, hbucket, -⟩ := hobstacle
      exact .inl ⟨rfl, hbuild, hbucket⟩
  | json fault =>
      obtain ⟨location, output, hplace, -, hread, hblank, hparse⟩ := hobstacle
      exact .inr ⟨fault, location, output, rfl, hplace, hread, hblank, hparse⟩
  | _ => exact hobstacle.elim

/-- Where nothing stands in the way there is no obstacle. -/
theorem Unobstructed.not_obstacle
    (hunobstructed : Unobstructed settings builder options metadata ran) (failure : Failure) :
    ¬Obstacle settings builder options metadata ran failure := by
  intro hobstacle
  have hthrough := hunobstructed.ranThrough
  rcases hobstacle.of_succeeded hthrough with
    ⟨-, hbuild, hbucket⟩ | ⟨fault, location, output, -, hplace, hread, hblank, hparse⟩
  · simpa [hbucket] using hunobstructed.placed hbuild
  · have hcommand : builder.listCommand .read location ∈
        (steps settings builder options metadata).map RunStep.command := by
      rw [← hthrough.commands_eq, Builder.listCommand_read]
      exact List.mem_map_of_mem hread
    obtain ⟨hbuild, hlist, -⟩ := listCommand_mem_iff.1 hcommand
    rcases hunobstructed.readable hbuild hlist location output hplace hread with
      hempty | ⟨value, hvalue⟩
    · exact hblank hempty
    · simp [hparse] at hvalue

/-- The verdict on a run that failed because of the only thing that stood in its way. -/
theorem verdict_of_obstacle {failure : Failure}
    (hcut : CutAtFailure (canonicalCommands settings builder.program builder.leading options
      (BuildConfig.assemble settings metadata)) ran)
    (hobstacle : Obstacle settings builder options metadata ran failure)
    (honly : ∀ other, Obstacle settings builder options metadata ran other → failure = other) :
    Verdict settings builder options metadata ran (.error failure) where
  ran_cut := hcut
  succeeds_iff := by
    constructor
    · intro hok
      simp [Except.isOk, Except.toBool] at hok
    · intro hunobstructed
      exact absurd hobstacle (hunobstructed.not_obstacle failure)
  fails_iff other := by
    constructor
    · intro hother
      cases hother
      exact hobstacle
    · intro hother
      rw [honly other hother]
  agrees report hok := by cases hok

theorem verdict_of_taken {failure : Failure}
    (htaken : RunStep.Taken (steps settings builder options metadata) ran (some failure)) :
    Verdict settings builder options metadata ran (.error failure) := by
  refine verdict_of_obstacle (map_command_steps settings builder options metadata ▸ htaken.cut)
    (obstacle_of_taken htaken) ?_
  intro other hother
  rcases hother.eq_or_ranThrough htaken with heq | hthrough
  · exact Option.some.inj heq
  · exact absurd hthrough.1 htaken.not_succeeded

theorem verdict_of_ended {result : Except Failure Report}
    (htaken : RunStep.Taken (steps settings builder options metadata) ran none)
    (hended : Ended settings builder options metadata ran result) :
    Verdict settings builder options metadata ran result := by
  have hthrough := ranThrough_of_taken htaken
  have hcut := map_command_steps settings builder options metadata ▸ htaken.cut
  rcases hended.cases hthrough with ⟨report, rfl, hunobstructed, hagrees⟩ |
    ⟨rfl, hbuild, hbucket⟩ |
    ⟨fault, location, output, rfl, hbuild, hlist, hplace, hread, hblank, hparse⟩
  · refine ⟨hcut, ⟨fun _ => hunobstructed, fun _ => rfl⟩, ?_, ?_⟩
    · intro failure
      exact ⟨nofun, fun hobstacle => absurd hobstacle (hunobstructed.not_obstacle failure)⟩
    · intro other hother
      cases hother
      exact hagrees
  · have hobstacle : Obstacle settings builder options metadata ran
        (.missingSetting "ARTIFACT_BUCKET") := ⟨rfl, hbuild, hbucket, hthrough⟩
    refine verdict_of_obstacle hcut hobstacle ?_
    intro other hother
    rcases hother.of_succeeded hthrough with ⟨rfl, -⟩ | ⟨_, location, _, -, hplace, -⟩
    · rfl
    · simpa [hbucket] using Settings.bucket_isSome hplace
  · have hobstacle : Obstacle settings builder options metadata ran (.json fault) :=
      ⟨location, output, hplace, hthrough, hread, hblank, hparse⟩
    refine verdict_of_obstacle hcut hobstacle ?_
    intro other hother
    rcases hother.of_succeeded hthrough with
      ⟨-, -, hbucket⟩ | ⟨fault', place, output', rfl, hplace', hread', -, hparse'⟩
    · simpa [hbucket] using Settings.bucket_isSome hplace
    · obtain rfl := Option.some.inj (hplace.symm.trans hplace')
      obtain rfl := Except.ok.inj (hthrough.output_unique hread hread')
      rw [Except.error.inj (hparse.symm.trans hparse')]

/-- What comes of a run of a fresh publisher, whatever its commands come to: it succeeds exactly if
nothing stands in its way, fails with what stands in its way first, and reports what it did. -/
theorem publish_verdict {settings : Settings} {publisher : Publisher}
    (hfresh : ofSettings settings = .ok publisher) (options : PublishOptions)
    {σ : Type} (outside : Outside σ) (state : σ) :
    let performance := (publisher.publish options).perform outside state
    let ran := exchangesOf performance.effects
    ∃ now, outside.Shows now ∧
      Verdict settings publisher.builders.builder options (metadataFrom settings ran now) ran
        performance.value.1 := by
  intro performance ran
  obtain ⟨now, hnow, hcourse⟩ :=
    fresh_traces hfresh (Plan.perform_traces outside (publisher.publish options) state) state
  refine ⟨now, hnow, ?_⟩
  rcases hcourse with ⟨failure, hfailure, htaken⟩ | ⟨htaken, hended⟩
  · rw [show performance.value.1 = .error failure from hfailure]
    exact verdict_of_taken htaken
  · exact verdict_of_ended htaken hended

/-- A rehearsal in which every command succeeds silently. -/
theorem silent_rehearsal_verdict :
    let settings : Settings := { bucket := some "artifacts" }
    let builder : Builder := ⟨"ts-artifact-builder", []⟩
    let publisher := under settings builder
    let options : PublishOptions := { publish := true }
    let performance := (publisher.publish options).perform (Rehearsal.scripted .memory) ⟨[], []⟩
    let ran := exchangesOf performance.effects
    ofSettings settings = .ok publisher ∧ performance.value.1.isOk ∧
      ∃ now, (Rehearsal.scripted .memory).Shows now ∧
        Verdict settings builder options (metadataFrom settings ran now) ran
          performance.value.1 := by
  intro settings builder publisher options performance ran
  have hfresh : ofSettings settings = .ok publisher :=
    ofSettings_eq_ok_iff.2 ⟨"ts-artifact-builder", [], by decide, rfl⟩
  exact ⟨hfresh, by rfl, publish_verdict hfresh options (Rehearsal.scripted .memory) ⟨[], []⟩⟩

end Publisher

end ArtifactRelease
