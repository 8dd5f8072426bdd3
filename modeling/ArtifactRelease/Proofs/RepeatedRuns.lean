import ArtifactRelease.Proofs.WorkflowStream

/-!
# Calls after the first

A publisher that is called time and again collects metadata in its first call only.  What came of
that is all that a call leaves behind, so that every later call goes as on a publisher that holds
the outcome from the start, however the builds of the calls before it ended.
-/

namespace ArtifactRelease

open ArtifactRelease.Json

variable {σ : Type} {outside : Outside σ}

/-! ## Many calls -/

namespace Publisher

/-- One of many calls: what was wanted, the world before it, and how it went. -/
structure Call (σ : Type) where
  options : PublishOptions
  before : σ
  performance : Performance (Except Failure Report × Publisher) σ

def Call.result (call : Call σ) : Except Failure Report :=
  call.performance.value.1

def Call.effects (call : Call σ) : List Effect :=
  call.performance.effects

def history (outside : Outside σ) (publisher : Publisher) : List PublishOptions → σ → List (Call σ)
  | [], _ => []
  | options :: later, state =>
    let performance := (publisher.publish options).perform outside state
    ⟨options, state, performance⟩ ::
      history outside performance.value.2 later performance.state

theorem exchangesOf_calls (calls : List (Call σ)) :
    exchangesOf (calls.flatMap Call.effects) = calls.flatMap fun call => exchangesOf call.effects :=
  List.filterMap_flatMap

/-- To publish time and again is to make the calls of the history. -/
theorem publishAll_perform (outside : Outside σ) (publisher : Publisher)
    (wanted : List PublishOptions) (state : σ) :
    let performance := (publisher.publishAll wanted).perform outside state
    let calls := history outside publisher wanted state
    performance.value.1 = calls.map Call.result ∧
      performance.effects = calls.flatMap Call.effects ∧ calls.map Call.options = wanted := by
  induction wanted generalizing publisher state with
  | nil => exact ⟨rfl, rfl, rfl⟩
  | cons options later ih =>
      obtain ⟨hresults, heffects, hwanted⟩ :=
        ih ((publisher.publish options).perform outside state).value.2
          ((publisher.publish options).perform outside state).state
      simp only [publishAll, Plan.perform_bind, Plan.perform_pure, Performance.after, history,
        List.map_cons, List.flatMap_cons, List.append_nil]
      exact ⟨congrArg (_ :: ·) hresults, congrArg (_ ++ ·) heffects, congrArg (_ :: ·) hwanted⟩

end Publisher

/-! ## Metadata in a configuration -/

theorem Json.compactFields_cons_cons (key : String) (value : Value) (next : String × Value)
    (later : List (String × Value)) :
    compactFields ((key, value) :: next :: later) =
      stringText key ++ ':' :: (value.compactChars ++ ',' :: compactFields (next :: later)) := rfl

/-- A field of an object stands in its text as it is. -/
theorem Json.field_infix {key : String} {value : Value} {fields : List (String × Value)}
    (hfield : (key, value) ∈ fields) :
    stringText key ++ ':' :: value.compactChars <:+: (Value.object fields).compactChars := by
  have hfields : stringText key ++ ':' :: value.compactChars <:+: compactFields fields := by
    induction fields with
    | nil => cases hfield
    | cons first later ih =>
        obtain ⟨name, content⟩ := first
        cases later with
        | nil =>
            obtain ⟨rfl, rfl⟩ := Prod.mk.inj (List.mem_singleton.1 hfield)
            exact List.infix_refl _
        | cons second others =>
            rw [compactFields_cons_cons]
            rcases List.mem_cons.1 hfield with heq | hlater
            · obtain ⟨rfl, rfl⟩ := Prod.mk.inj heq
              exact ⟨[], ',' :: compactFields (second :: others), by simp⟩
            · exact List.infix_append_of_infix_right (List.infix_cons
                (List.infix_append_of_infix_right (List.infix_cons (ih hlater))))
  exact List.infix_cons (List.infix_append_of_infix_left hfields)

/-- The metadata stand in the text as the field for them. -/
def Metadata.StandsIn (metadata : Metadata) (text : String) : Prop :=
  ("\"buildRecordMeta\":" ++ metadata.json.compact).toList <:+: text.toList

theorem BuildConfig.metadata_standsIn (config : BuildConfig) :
    config.metadata.StandsIn config.json.compact := by
  have hfield : stringText "buildRecordMeta" ++ ':' :: config.metadata.json.compactChars <:+:
      config.json.compactChars := Json.field_infix (by simp)
  simpa [Metadata.StandsIn, Value.compact, stringText, escapeChar] using hfield

/-! ## The effects of one call -/

/-- Tags found are logged by a collector alone, unless running some command is said to have logged
them. -/
def FindsNoTags (outside : Outside σ) (effect : Effect) : Prop :=
  ∀ tags, effect = .logged (.foundTags tags) →
    ∃ command state, .foundTags tags ∈ (outside.run command state).1.logged

theorem admits_findsNoTags : Admits outside (FindsNoTags outside) where
  answered command state effect heffect := by
    rintro tags rfl
    have hlogged : Effect.logged (.foundTags tags) ∈
        (outside.run command state).1.logged.map Effect.logged := by
      simpa [Child.Answer.effects] using heffect
    exact ⟨command, state, by simpa using hlogged⟩
  logged event hevent := by
    rintro tags heq
    exact absurd (Effect.logged.inj heq) (hevent tags)

namespace Publisher

variable {publisher : Publisher} {options : PublishOptions} {effects : List Effect}
  {outcome : Except QueryFailure Metadata}

/-- A call ended as it can when collecting has come to an outcome. -/
def EndsBy (outcome : Except QueryFailure Metadata) (result : Except Failure Report) : Prop :=
  match outcome with
  | .error failure => result = .error (.metadata failure)
  | .ok metadata =>
    (∀ report, result = .ok report → report.metadata = metadata) ∧
      ∀ failure, result ≠ .error (.metadata failure)

theorem runWith_ends {runId : RunId} {start : Duration} {metadata : Metadata}
    {result : Except Failure Report × Publisher}
    (hheld : publisher.collector.collected = some (.ok metadata))
    (htrace : (publisher.runWith options runId start metadata).Traces outside effects result) :
    EndsBy (.ok metadata) result.1 := by
  obtain ⟨inner, built, timings, hbuild, -, -, -, rfl⟩ := runWith_traces hheld htrace
  cases hbuilt : built.1 with
  | ok outcome =>
      refine ⟨?_, nofun⟩
      rintro _ ⟨⟩
      rfl
  | error failure =>
      refine ⟨?_, ?_⟩
      · rintro report ⟨⟩
      · intro cause heq
        exact build_failure hbuild hbuilt cause (Except.error.inj heq)

/-- The effects are those of a call when collecting has come to an outcome: nothing is run or
announced without metadata; under metadata the build is run up to the first command that fails. -/
def ActsBy (publisher : Publisher) (options : PublishOptions)
    (outcome : Except QueryFailure Metadata) (effects : List Effect) : Prop :=
  match outcome with
  | .error _ => commandsOf effects = [] ∧ announcedOf effects = []
  | .ok metadata =>
    CutAtFailure
      ((buildSteps publisher.builders publisher.lists options
        (BuildConfig.assemble publisher.settings metadata)).map RunStep.command)
      (exchangesOf effects)

/-- What a call does after collecting goes by what that came to. -/
theorem actsBy_of_collected {result : Except Failure Report × Publisher}
    (hrest : (∃ failure, outcome = .error failure ∧ effects = [] ∧
        result.1 = .error (.metadata failure)) ∨
      ∃ metadata runId start, outcome = .ok metadata ∧
        ((publisher.holding (.ok metadata)).runWith options runId start metadata).Traces outside
          effects result) :
    publisher.ActsBy options outcome effects := by
  rcases hrest with ⟨failure, rfl, rfl, -⟩ | ⟨metadata, runId, start, rfl, hrun⟩
  · exact ⟨rfl, rfl⟩
  · obtain ⟨inner, built, timings, hbuild, hinner, -⟩ := runWith_traces rfl hrun
    rw [ActsBy, hinner]
    rcases build_traces hbuild with ⟨failure, -, htaken⟩ | ⟨htaken, -⟩
    · exact htaken.cut
    · exact htaken.cut

/-- A call collects, holds from then on what that has come to, and goes on by it.  What was held
before the call is what collecting comes to; where nothing was, version control is asked. -/
theorem publish_collects {result : Except Failure Report × Publisher}
    (htrace : (publisher.publish options).Traces outside effects result) :
    ∃ asked later outcome, exchangesOf effects = exchangesOf asked ++ exchangesOf later ∧
      announcedOf effects = announcedOf asked ++ announcedOf later ∧
      result.2 = publisher.holding outcome ∧ EndsBy outcome result.1 ∧
      publisher.ActsBy options outcome later ∧
      match publisher.collector.collected with
      | some kept => asked = [] ∧ outcome = kept
      | none => publisher.collector.Dialogue outside.Shows (exchangesOf asked) outcome := by
  obtain ⟨asked, collected, later, hcollect, hheld, hran, hannounced, hrest⟩ :=
    publish_traces htrace
  obtain ⟨-, hcollected⟩ := Collector.collect_traces hcollect
  refine ⟨asked, later, collected.1, hran, hannounced, hheld, ?_, actsBy_of_collected hrest,
    hcollected⟩
  rcases hrest with ⟨failure, houtcome, -, hresult⟩ | ⟨metadata, runId, start, houtcome, hrun⟩
  · rw [houtcome]
    exact hresult
  · rw [houtcome]
    exact runWith_ends rfl hrun

/-- After a call the publisher holds what collecting has come to, which is what it held before if
it held anything. -/
theorem publish_holds {result : Except Failure Report × Publisher}
    (htrace : (publisher.publish options).Traces outside effects result) :
    ∃ outcome, result.2 = publisher.holding outcome ∧ EndsBy outcome result.1 ∧
      ∀ kept, publisher.collector.collected = some kept → outcome = kept := by
  obtain ⟨asked, later, outcome, -, -, hheld, hends, -, hcollected⟩ := publish_collects htrace
  refine ⟨outcome, hheld, hends, ?_⟩
  intro kept hkept
  rw [hkept] at hcollected
  exact hcollected.2

/-- A publisher that holds an outcome asks nothing. -/
theorem actsBy_of_held {result : Except Failure Report × Publisher}
    (htrace : ((publisher.holding outcome).publish options).Traces outside effects result) :
    publisher.ActsBy options outcome effects := by
  obtain ⟨asked, later, kept, hran, hannounced, -, -, hlater, hcollected⟩ :=
    publish_collects htrace
  obtain ⟨rfl, rfl⟩ : asked = [] ∧ kept = outcome := hcollected
  have hacts : publisher.ActsBy options kept later := hlater
  rw [exchangesOf_nil, List.nil_append] at hran
  rw [announcedOf_nil, List.nil_append] at hannounced
  simpa only [ActsBy, commandsOf_eq_map_exchangesOf, hran, hannounced] using hacts

/-- A command of the artifact builder, to publish or to list under the metadata that collecting has
come to. -/
def BuildsUnder (publisher : Publisher) (outcome : Except QueryFailure Metadata)
    (command : Child.Command) : Prop :=
  ∃ metadata, outcome = .ok metadata ∧
    (command = publisher.builders.builder.publishCommand
        (BuildConfig.assemble publisher.settings metadata) ∨
      ∃ operation location, command = publisher.lists.builder.listCommand operation location)

theorem BuildsUnder.program_eq {command : Child.Command}
    (hbuilds : publisher.BuildsUnder outcome command) :
    command.program = publisher.builders.builder.program ∨
      command.program = publisher.lists.builder.program := by
  obtain ⟨metadata, -, rfl | ⟨operation, location, rfl⟩⟩ := hbuilds
  · exact .inl rfl
  · exact .inr rfl

theorem BuildsUnder.ne_question {command : Child.Command}
    (hbuilds : publisher.BuildsUnder outcome command) (versionControl : VersionControl)
    (query : Query) : command ≠ versionControl.command query := by
  obtain ⟨metadata, -, rfl | ⟨operation, location, rfl⟩⟩ := hbuilds
  · exact (Builder.question_ne_publishCommand versionControl query).symm
  · exact (Builder.question_ne_listCommand versionControl query operation).symm

/-- Nothing else is run in such a call. -/
theorem ActsBy.buildsUnder {command : Child.Command}
    (hacts : publisher.ActsBy options outcome effects) (hmem : command ∈ commandsOf effects) :
    publisher.BuildsUnder outcome command := by
  cases outcome with
  | error failure =>
      rw [ActsBy] at hacts
      rw [hacts.1] at hmem
      cases hmem
  | ok metadata =>
      rw [ActsBy] at hacts
      rw [commandsOf_eq_map_exchangesOf] at hmem
      obtain ⟨exchange, hexchange, rfl⟩ := List.mem_map.1 hmem
      obtain ⟨step, hstep, hcommand⟩ := List.mem_map.1 (hacts.mem hexchange)
      obtain ⟨-, location, -, ⟨-, rfl⟩ | ⟨-, operation, rfl⟩⟩ := mem_buildSteps.1 hstep
      · exact ⟨metadata, rfl, .inl hcommand.symm⟩
      · exact ⟨metadata, rfl, .inr ⟨operation, location, hcommand.symm⟩⟩

theorem findsNoTags_of_held {result : Except Failure Report × Publisher}
    (htrace : ((publisher.holding outcome).publish options).Traces outside effects result) :
    ∀ effect ∈ effects, FindsNoTags outside effect :=
  publish_only _ _ admits_findsNoTags (fun _ _ => nofun) (fun _ => nofun) nofun
    (Plan.only_pure _) effects result htrace

/-! ## Calls after the first -/

/-- A call after the first, when collecting has come to an outcome in that. -/
structure Repeats (outside : Outside σ) (publisher : Publisher)
    (outcome : Except QueryFailure Metadata) (call : Call σ) : Prop where
  /-- The call goes as that of a publisher which has held the outcome all the time. -/
  performance_eq : call.performance =
    ((publisher.holding outcome).publish call.options).perform outside call.before
  ends : EndsBy outcome call.result
  acts : publisher.ActsBy call.options outcome call.effects
  asks_nothing : ∀ command ∈ commandsOf call.effects,
    (command.program = publisher.builders.builder.program ∨
        command.program = publisher.lists.builder.program) ∧
      ∀ (versionControl : VersionControl) query, command ≠ versionControl.command query
  finds_no_tags : ∀ effect ∈ call.effects, FindsNoTags outside effect
  configured : ∀ command ∈ commandsOf call.effects,
    (∃ operation location, command = publisher.lists.builder.listCommand operation location) ∨
      ∃ metadata text, outcome = .ok metadata ∧ metadata.StandsIn text ∧
        command.program = publisher.builders.builder.program ∧
        command.arguments = publisher.builders.builder.leading ++ ["publish", "--config", text]

/-- A publisher that holds an outcome repeats it in every call. -/
theorem repeats_of_held {call : Call σ}
    (hperformance : call.performance =
      ((publisher.holding outcome).publish call.options).perform outside call.before) :
    Repeats outside publisher outcome call := by
  have htrace : ((publisher.holding outcome).publish call.options).Traces outside call.effects
      call.performance.value := by
    rw [Call.effects, hperformance]
    exact Plan.perform_traces outside _ call.before
  have hacts := actsBy_of_held htrace
  refine ⟨hperformance, ?_, hacts, ?_, findsNoTags_of_held htrace, ?_⟩
  · obtain ⟨_, -, hends, hkept⟩ := publish_holds htrace
    rw [hkept outcome rfl] at hends
    exact hends
  · intro command hmem
    have hbuilds := hacts.buildsUnder hmem
    exact ⟨hbuilds.program_eq, hbuilds.ne_question⟩
  · intro command hmem
    obtain ⟨metadata, houtcome, rfl | ⟨operation, location, rfl⟩⟩ := hacts.buildsUnder hmem
    · have hstands := (BuildConfig.assemble publisher.settings metadata).metadata_standsIn
      exact .inr ⟨metadata, _, houtcome, hstands, rfl, rfl⟩
    · exact .inl ⟨operation, location, rfl⟩

theorem history_repeats (wanted : List PublishOptions) (state : σ) :
    ∀ call ∈ history outside (publisher.holding outcome) wanted state,
      Repeats outside publisher outcome call := by
  induction wanted generalizing state with
  | nil => exact List.forall_mem_nil _
  | cons options later ih =>
      have hkept : (((publisher.holding outcome).publish options).perform outside state).value.2 =
          publisher.holding outcome := by
        obtain ⟨kept, hvalue, -, hheld⟩ :=
          publish_holds (Plan.perform_traces outside _ state)
        rw [hvalue, hheld outcome rfl]
        rfl
      rw [history, List.forall_mem_cons, hkept]
      exact ⟨repeats_of_held rfl, ih _⟩

/-- Of many calls the first collects and goes on by what that has come to, and those after it repeat
this. -/
theorem publishAll_calls (outside : Outside σ) (publisher : Publisher) (options : PublishOptions)
    (later : List PublishOptions) (state : σ) :
    let whole := (publisher.publishAll (options :: later)).perform outside state
    ∃ (asked begun : List Effect) (outcome : Except QueryFailure Metadata)
        (result : Except Failure Report) (calls : List (Call σ)),
      exchangesOf whole.effects =
          exchangesOf asked ++ (exchangesOf begun ++ exchangesOf (calls.flatMap Call.effects)) ∧
        whole.value.1 = result :: calls.map Call.result ∧ calls.map Call.options = later ∧
        EndsBy outcome result ∧ publisher.ActsBy options outcome begun ∧
        (∀ call ∈ calls, Repeats outside publisher outcome call) ∧
        match publisher.collector.collected with
        | some kept => asked = [] ∧ outcome = kept
        | none => publisher.collector.Dialogue outside.Shows (exchangesOf asked) outcome := by
  intro whole
  let first := (publisher.publish options).perform outside state
  obtain ⟨hresults, heffects, hwanted⟩ :=
    publishAll_perform outside publisher (options :: later) state
  obtain ⟨asked, begun, outcome, hfirst, -, hheld, hends, hacts, hcollected⟩ :=
    publish_collects (Plan.perform_traces outside (publisher.publish options) state)
  rw [history, hheld] at hresults heffects hwanted
  let calls := history outside (publisher.holding outcome) later first.state
  have hran : exchangesOf whole.effects =
      exchangesOf asked ++ (exchangesOf begun ++ exchangesOf (calls.flatMap Call.effects)) :=
    calc exchangesOf whole.effects
        = exchangesOf (first.effects ++ calls.flatMap Call.effects) :=
          congrArg exchangesOf heffects
      _ = exchangesOf first.effects ++ exchangesOf (calls.flatMap Call.effects) :=
          exchangesOf_append _ _
      _ = exchangesOf asked ++ (exchangesOf begun ++ exchangesOf (calls.flatMap Call.effects)) := by
          rw [hfirst, List.append_assoc]
  exact ⟨asked, begun, outcome, first.value.1, calls, hran, hresults, (List.cons.inj hwanted).2,
    hends, hacts, history_repeats later first.state, hcollected⟩

/-- A publisher collects in its first call, and what that comes to is all that it takes along.
Every later call repeats it, whatever the calls in between came to: it puts no question to version
control and finds no tags, and it ends with the failure of the first call, having done nothing, or
goes on to its build with the metadata of the first call. -/
theorem later_calls_repeat_first (outside : Outside σ) (publisher : Publisher)
    (options : PublishOptions) (later : List PublishOptions) (state : σ) :
    let whole := (publisher.publishAll (options :: later)).perform outside state
    let first := (publisher.publish options).perform outside state
    let calls := history outside first.value.2 later first.state
    whole.value.1 = first.value.1 :: calls.map Call.result ∧
      whole.effects = first.effects ++ calls.flatMap Call.effects ∧
      calls.map Call.options = later ∧
      ∃ outcome, first.value.2 = publisher.holding outcome ∧ EndsBy outcome first.value.1 ∧
        ∀ call ∈ calls, Repeats outside publisher outcome call := by
  intro whole first calls
  obtain ⟨hresults, heffects, hwanted⟩ :=
    publishAll_perform outside publisher (options :: later) state
  obtain ⟨outcome, hheld, hends, -⟩ := publish_holds
    (Plan.perform_traces outside (publisher.publish options) state)
  refine ⟨hresults, heffects, (List.cons.inj hwanted).2, outcome, hheld, hends, ?_⟩
  have hcalls : calls = history outside (publisher.holding outcome) later first.state := by
    rw [← hheld]
  rw [hcalls]
  exact history_repeats later first.state

end Publisher

end ArtifactRelease
