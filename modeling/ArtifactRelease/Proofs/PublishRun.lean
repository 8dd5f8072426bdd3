import ArtifactRelease.Proofs.Collection
import ArtifactRelease.Publisher

/-!
# The course of a run

A run is a list of steps, each a command and the failure of the run that its failing amounts to.
The steps are taken in order, and the first that fails ends the run.  This file says for every part
of a run which steps it takes, what it comes to, and what it announces.
-/

namespace ArtifactRelease

open ArtifactRelease.Text

/-- A command of a run, and what it means for the run that the command fails. -/
structure RunStep where
  command : Child.Command
  failure : Child.Failure → Failure

namespace RunStep

/-- Steps were taken in order up to the first that failed, if one did. -/
inductive Taken : List RunStep → List Exchange → Option Failure → Prop
  | nil : Taken [] [] none
  | failed (step : RunStep) (later : List RunStep) (cause : Child.Failure) :
      Taken (step :: later) [(step.command, .error cause)] (some (step.failure cause))
  | succeeded (step : RunStep) (output : String) {later : List RunStep} {ran : List Exchange}
      {failure : Option Failure} (hlater : Taken later ran failure) :
      Taken (step :: later) ((step.command, .ok output) :: ran) failure

variable {first second : List RunStep} {ran later : List Exchange} {failure : Option Failure}

theorem Taken.append (hfirst : Taken first ran none) (hsecond : Taken second later failure) :
    Taken (first ++ second) (ran ++ later) failure := by
  generalize hnone : none = none' at hfirst
  induction hfirst with
  | nil => exact hsecond
  | failed => cases hnone
  | succeeded step output _ ih => exact .succeeded step output (ih hnone)

theorem Taken.append_of_failed {reason : Failure} (hfirst : Taken first ran (some reason))
    (second : List RunStep) : Taken (first ++ second) ran (some reason) := by
  generalize hsome : some reason = some' at hfirst
  induction hfirst with
  | nil => cases hsome
  | failed step later cause => exact .failed step _ cause
  | succeeded step output _ ih => exact .succeeded step output (ih hsome)

/-- Steps were taken: the first that failed is what the result says, or none failed and things were
concluded in some way. -/
def Course {α : Type} (steps : List RunStep) (ran : List Exchange) (result : Except Failure α)
    (concluded : Prop) : Prop :=
  (∃ failure, result = .error failure ∧ Taken steps ran (some failure)) ∨
    Taken steps ran none ∧ concluded

/-! ## Steps that fail -/

variable {steps : List RunStep}

def Succeeded (ran : List Exchange) : Prop :=
  ∀ exchange ∈ ran, exchange.2.isOk

/-- A command that failed is that of a step, and the failure is what that step makes of it. -/
theorem Taken.of_error {command : Child.Command} {cause : Child.Failure}
    (htaken : Taken steps ran failure) (hmem : (command, .error cause) ∈ ran) :
    ∃ step ∈ steps, step.command = command ∧ failure = some (step.failure cause) := by
  induction htaken with
  | nil => simp at hmem
  | failed step later reason =>
      simp only [List.mem_singleton, Prod.mk.injEq, Except.error.injEq] at hmem
      obtain ⟨rfl, rfl⟩ := hmem
      exact ⟨step, by simp, rfl, rfl⟩
  | succeeded step output _ ih =>
      obtain ⟨found, hfound, hcommand, hfailure⟩ := ih (by simpa using hmem)
      exact ⟨found, List.mem_cons_of_mem _ hfound, hcommand, hfailure⟩

/-- If steps were taken up to a failure, one of their commands failed. -/
theorem Taken.exists_error {reason : Failure} (htaken : Taken steps ran (some reason)) :
    ∃ step ∈ steps, ∃ cause, (step.command, .error cause) ∈ ran ∧ reason = step.failure cause := by
  generalize hsome : some reason = failure at htaken
  induction htaken with
  | nil => cases hsome
  | failed step later cause =>
      exact ⟨step, by simp, cause, by simp, Option.some.inj hsome⟩
  | succeeded step output _ ih =>
      obtain ⟨found, hfound, cause, hmem, hreason⟩ := ih hsome
      exact ⟨found, List.mem_cons_of_mem _ hfound, cause, List.mem_cons_of_mem _ hmem, hreason⟩

theorem Taken.not_succeeded {reason : Failure} (htaken : Taken steps ran (some reason)) :
    ¬Succeeded ran := by
  obtain ⟨step, -, cause, hmem, -⟩ := htaken.exists_error
  intro hsucceeded
  simpa [Except.isOk, Except.toBool] using hsucceeded _ hmem

theorem Taken.succeeded_of_none (htaken : Taken steps ran none) :
    Succeeded ran ∧ ran.map Prod.fst = steps.map command := by
  generalize hnone : none = failure at htaken
  induction htaken with
  | nil => exact ⟨by simp [Succeeded], rfl⟩
  | failed => cases hnone
  | succeeded step output _ ih =>
      obtain ⟨hsucceeded, hcommands⟩ := ih hnone
      refine ⟨?_, by simp [hcommands]⟩
      intro exchange hmem
      rcases List.mem_cons.1 hmem with rfl | hmem
      · rfl
      · exact hsucceeded exchange hmem

end RunStep

/-! ## Parts of a run -/

def failure? {α : Type} : Except Failure α → Option Failure
  | .ok _ => none
  | .error failure => some failure

@[simp]
theorem failure?_ok {α : Type} (value : α) : failure? (.ok value) = none := rfl

@[simp]
theorem failure?_error {α : Type} (failure : Failure) :
    failure? (.error failure : Except Failure α) = some failure := rfl

variable {σ : Type} {outside : Outside σ} {effects : List Effect}

/-- Running a command and reading its output is the step of that command. -/
theorem RunStep.traces {α : Type} (step : RunStep) (read : String → Except Failure α)
    {result : Except Failure α}
    (htrace : Plan.Traces outside (do
      match ← Plan.command step.command with
      | .ok output => return read output
      | .error cause => return .error (step.failure cause)) effects result) :
    (∃ output, exchangesOf effects = [(step.command, .ok output)] ∧ result = read output) ∨
      ∃ cause, exchangesOf effects = [(step.command, .error cause)] ∧
        result = .error (step.failure cause) := by
  obtain ⟨outcome, _, later, hcommand, hrest, rfl⟩ := Plan.traces_bind.1 htrace
  obtain ⟨state, rfl, houtcome⟩ := Plan.traces_command.1 hcommand
  cases outcome with
  | ok output =>
      obtain ⟨rfl, rfl⟩ := Plan.traces_pure.1 hrest
      exact .inl ⟨output, by simp [← houtcome], rfl⟩
  | error cause =>
      obtain ⟨rfl, rfl⟩ := Plan.traces_pure.1 hrest
      exact .inr ⟨cause, by simp [← houtcome], rfl⟩

namespace Builder

variable {builder : Builder} {config : BuildConfig} {location : ArtifactLocation}

def publishing (builder : Builder) (config : BuildConfig) : RunStep :=
  ⟨builder.publishCommand config, .builder⟩

def listing (builder : Builder) (location : ArtifactLocation) (operation : ListOperation) :
    RunStep :=
  ⟨builder.listCommand operation location, .artifactList operation⟩

def listSteps (builder : Builder) (location : ArtifactLocation) : List RunStep :=
  [builder.listing location .scan, builder.listing location .read]

theorem publish_traces {result : Except Failure Unit}
    (htrace : (builder.publish config location).Traces outside effects result) :
    RunStep.Taken [builder.publishing config] (exchangesOf effects) (failure? result) := by
  obtain ⟨later, hrest, rfl⟩ := Plan.traces_logged_bind.1 htrace
  rcases RunStep.traces (builder.publishing config) (fun _ => .ok ()) hrest with
    ⟨output, hran, rfl⟩ | ⟨cause, hran, rfl⟩
  · simpa [hran, Effect.exchange?] using .succeeded (builder.publishing config) output .nil
  · simpa [hran, Effect.exchange?] using .failed (builder.publishing config) [] cause

theorem scan_traces {result : Except Failure Unit}
    (htrace : (builder.scan location).Traces outside effects result) :
    RunStep.Taken [builder.listing location .scan] (exchangesOf effects) (failure? result) := by
  rcases RunStep.traces (builder.listing location .scan) (fun _ => .ok ()) htrace with
    ⟨output, hran, rfl⟩ | ⟨cause, hran, rfl⟩
  · rw [hran]
    exact .succeeded _ output .nil
  · rw [hran]
    exact .failed _ [] cause

theorem readList_traces {result : Except Failure Json.Value}
    (htrace : (builder.readList location).Traces outside effects result) :
    (∃ output, exchangesOf effects = [(builder.listCommand .read location, .ok output)] ∧
      result = parseList output) ∨
    ∃ cause, exchangesOf effects = [(builder.listCommand .read location, .error cause)] ∧
      result = .error (.artifactList .read cause) :=
  RunStep.traces (builder.listing location .read) parseList htrace

end Builder

namespace Timings

variable {timings : Timings}

theorem note_traces {label : String} {duration : Duration} {result : Timings}
    (htrace : (timings.note label duration).Traces outside effects result) :
    exchangesOf effects = [] ∧ result.labels = timings.labels ++ [label] := by
  obtain ⟨later, hrest, rfl⟩ := Plan.traces_logged_bind.1 htrace
  obtain ⟨rfl, rfl⟩ := Plan.traces_pure.1 hrest
  exact ⟨rfl, by simp [record, labels]⟩

theorem note_only {allowed : Effect → Prop} {label : String} {duration : Duration}
    (hnoted : allowed (.logged (.timing label duration))) :
    (timings.note label duration).Only outside allowed :=
  (Plan.only_logged hnoted).bind fun _ => Plan.only_pure _

/-- A timed step does what the step does, and adds its label. -/
theorem time_traces {α : Type} {label : String} {step : Plan α} {result : α × Timings}
    (htrace : (timings.time label step).Traces outside effects result) :
    ∃ inner, step.Traces outside inner result.1 ∧ exchangesOf effects = exchangesOf inner ∧
      result.2.labels = timings.labels ++ [label] := by
  simp only [time, Plan.traces_bind, Plan.traces_elapsed, Plan.traces_pure] at htrace
  obtain ⟨_, _, _, ⟨_, rfl, -⟩, ⟨value, inner, _, hstep,
    ⟨_, _, _, ⟨_, rfl, -⟩, ⟨noted, _, _, hnote, ⟨rfl, rfl⟩, rfl⟩, rfl⟩, rfl⟩, rfl⟩ := htrace
  obtain ⟨hquiet, hlabels⟩ := note_traces hnote
  exact ⟨inner, hstep, by simp [hquiet], hlabels⟩

end Timings

def BuildOutcome.report (outcome : BuildOutcome) (runId : RunId) (metadata : Metadata)
    (timings : Timings) : Report :=
  { runId
    metadata
    config := outcome.config
    location := outcome.location
    published := outcome.published
    artifactList := outcome.artifactList
    timings }

namespace Publisher

variable {publisher : Publisher} {options : PublishOptions}

/-- Listing runs the two list commands.  If both succeed, the output of the second is read. -/
theorem listBucket_traces {location : ArtifactLocation} {timings : Timings}
    {result : Except Failure Json.Value × Timings}
    (htrace : (publisher.listBucket location timings).Traces outside effects result) :
    (∃ failure, result.1 = .error failure ∧
      RunStep.Taken (publisher.lists.builder.listSteps location) (exchangesOf effects)
        (some failure)) ∨
    ∃ scanned output, exchangesOf effects =
        [(publisher.lists.builder.listCommand .scan location, .ok scanned),
          (publisher.lists.builder.listCommand .read location, .ok output)] ∧
      result.1 = Builder.parseList output ∧
      result.2.labels = timings.labels ++ ["scan artifacts", "read list"] := by
  obtain ⟨_, hrest, rfl⟩ := Plan.traces_logged_bind.1 htrace
  obtain ⟨⟨scanned, afterScan⟩, front, _, hscan, hrest, rfl⟩ := Plan.traces_bind.1 hrest
  obtain ⟨inner, hinner, hfront, hlabels⟩ := Timings.time_traces hscan
  have htaken := Builder.scan_traces hinner
  cases scanned with
  | error failure =>
      obtain ⟨rfl, rfl⟩ := Plan.traces_pure.1 hrest
      refine .inl ⟨failure, rfl, ?_⟩
      simpa [Effect.exchange?, hfront, Builder.listSteps] using
        htaken.append_of_failed [publisher.lists.builder.listing location .read]
  | ok =>
      obtain ⟨⟨value, afterRead⟩, back, back', hread, hrest, rfl⟩ := Plan.traces_bind.1 hrest
      obtain ⟨innerRead, hinnerRead, hback, hlabelsRead⟩ := Timings.time_traces hread
      -- whatever was read is the result, and at most its length is logged
      have hresult : exchangesOf back' = [] ∧ result = (value, afterRead) := by
        cases value with
        | error failure =>
            obtain ⟨rfl, rfl⟩ := Plan.traces_pure.1 hrest
            exact ⟨rfl, rfl⟩
        | ok value =>
            cases hlisted : listed? value with
            | none =>
                simp only [hlisted] at hrest
                obtain ⟨rfl, rfl⟩ := Plan.traces_pure.1 hrest
                exact ⟨rfl, rfl⟩
            | some count =>
                simp only [hlisted] at hrest
                obtain ⟨_, hpure, rfl⟩ := Plan.traces_logged_bind.1 hrest
                obtain ⟨rfl, rfl⟩ := Plan.traces_pure.1 hpure
                exact ⟨rfl, rfl⟩
      obtain ⟨hquiet, rfl⟩ := hresult
      generalize hran : exchangesOf inner = ran at htaken hfront
      cases htaken with
      | @succeeded _ scanOutput _ ran _ hnil =>
          cases hnil
          rcases Builder.readList_traces hinnerRead with
            ⟨output, hranRead, hvalue⟩ | ⟨cause, hranRead, hvalue⟩
          · refine .inr ⟨scanOutput, output, ?_, hvalue, ?_⟩
            · simp [Effect.exchange?, hfront, hback, hranRead, hquiet, Builder.listing]
            · simp [hlabelsRead, hlabels]
          · refine .inl ⟨_, hvalue, ?_⟩
            simpa [Effect.exchange?, hfront, hback, hranRead, hquiet] using
              .succeeded _ scanOutput (.failed (publisher.lists.builder.listing location .read) [] cause)

/-- Publishing, if that is wanted, is one step, and is noted in the outcome. -/
theorem publishStep_traces {location : ArtifactLocation} {outcome : BuildOutcome}
    {result : Except Failure BuildOutcome}
    (htrace : (publisher.publishStep options location outcome).Traces outside effects result) :
    RunStep.Taken
        (if options.publish then [publisher.builders.builder.publishing outcome.config] else [])
        (exchangesOf effects) (failure? result) ∧
      ∀ later, result = .ok later →
        later = { outcome with published := outcome.published || options.publish } := by
  rw [publishStep] at htrace
  cases hpublish : options.publish with
  | true =>
      rw [if_pos hpublish] at htrace
      obtain ⟨published, inner, _, hinner, hrest, rfl⟩ := Plan.traces_bind.1 htrace
      have htaken := Builder.publish_traces hinner
      cases published with
      | error failure =>
          obtain ⟨rfl, rfl⟩ := Plan.traces_pure.1 hrest
          refine ⟨by simpa using htaken, ?_⟩
          intro later hlater
          cases hlater
      | ok =>
          obtain ⟨rfl, rfl⟩ := Plan.traces_pure.1 hrest
          refine ⟨by simpa using htaken, ?_⟩
          intro later hlater
          rw [← Except.ok.inj hlater, Bool.or_true]
  | false =>
      rw [if_neg (by simp [hpublish])] at htrace
      obtain ⟨rfl, rfl⟩ := Plan.traces_pure.1 htrace
      refine ⟨.nil, ?_⟩
      intro later hlater
      rw [← Except.ok.inj hlater, Bool.or_false]

/-- The steps of a build, as long as none fails. -/
def buildSteps (builders : BuilderFactory) (lists : ListFactory) (options : PublishOptions)
    (config : BuildConfig) : List RunStep :=
  match options.build, builders.location? with
  | true, .ok location =>
    (if options.publish then [builders.builder.publishing config] else [])
      ++ if options.list then lists.builder.listSteps location else []
  | _, _ => []

/-- What a build whose steps all succeed comes to, with the labels of its timings. -/
inductive Concluded (builders : BuilderFactory) (lists : ListFactory) (options : PublishOptions)
    (config : BuildConfig) (ran : List Exchange) : Except Failure BuildOutcome → List String → Prop
  | unbuilt (hbuild : options.build = false) :
      Concluded builders lists options config ran (.ok { config }) []
  | unplaced (hbuild : options.build = true) {failure : Failure}
      (hlocation : builders.location? = .error failure) :
      Concluded builders lists options config ran (.error failure) []
  | unlisted (hbuild : options.build = true) {location : ArtifactLocation}
      (hlocation : builders.location? = .ok location) (hlist : options.list = false) :
      Concluded builders lists options config ran
        (.ok { config, location := some location, published := options.publish }) []
  | listed (hbuild : options.build = true) {location : ArtifactLocation}
      (hlocation : builders.location? = .ok location) (hlist : options.list = true)
      {earlier : List Exchange} {output : String} {value : Json.Value}
      (hran : ran = earlier ++ [(lists.builder.listCommand .read location, .ok output)])
      (hvalue : Builder.parseList output = .ok value) :
      Concluded builders lists options config ran
        (.ok
          { config
            location := some location
            published := options.publish
            artifactList := some value })
        ["scan artifacts", "read list"]
  | unreadable (hbuild : options.build = true) {location : ArtifactLocation}
      (hlocation : builders.location? = .ok location) (hlist : options.list = true)
      {earlier : List Exchange} {output : String} {failure : Failure}
      (hran : ran = earlier ++ [(lists.builder.listCommand .read location, .ok output)])
      (hvalue : Builder.parseList output = .error failure) :
      Concluded builders lists options config ran (.error failure) ["scan artifacts", "read list"]

/-- Listing, if that is wanted, fails with one of its steps, or all of them succeed and what is read
goes to the outcome. -/
theorem listStep_traces {location : ArtifactLocation} {outcome : BuildOutcome} {timings : Timings}
    {result : Except Failure BuildOutcome × Timings}
    (htrace :
      (publisher.listStep options location outcome timings).Traces outside effects result) :
    (∃ failure, result.1 = .error failure ∧ options.list = true ∧
      RunStep.Taken (publisher.lists.builder.listSteps location) (exchangesOf effects)
        (some failure)) ∨
    (options.list = false ∧ exchangesOf effects = [] ∧ result = (.ok outcome, timings)) ∨
    ∃ scanned output, options.list = true ∧ exchangesOf effects =
        [(publisher.lists.builder.listCommand .scan location, .ok scanned),
          (publisher.lists.builder.listCommand .read location, .ok output)] ∧
      result.1 = (Builder.parseList output).map
        (fun value => { outcome with artifactList := some value }) ∧
      result.2.labels = timings.labels ++ ["scan artifacts", "read list"] := by
  rw [listStep] at htrace
  cases hlist : options.list with
  | false =>
      rw [if_neg (by simp [hlist])] at htrace
      obtain ⟨rfl, rfl⟩ := Plan.traces_pure.1 htrace
      exact .inr (.inl ⟨rfl, rfl, rfl⟩)
  | true =>
      rw [if_pos hlist] at htrace
      obtain ⟨⟨value, timings⟩, inner, later, hinner, hrest, rfl⟩ := Plan.traces_bind.1 htrace
      obtain ⟨rfl, rfl⟩ := Plan.traces_pure.1 hrest
      rw [List.append_nil]
      rcases listBucket_traces hinner with
        ⟨failure, rfl, htaken⟩ | ⟨scanned, output, hran, rfl, hlabels⟩
      · exact .inl ⟨failure, rfl, rfl, htaken⟩
      · exact .inr (.inr ⟨scanned, output, rfl, hran, rfl, hlabels⟩)

theorem buildAt_traces {config : BuildConfig} {location : ArtifactLocation}
    {result : Except Failure BuildOutcome × Timings} (hbuild : options.build = true)
    (hlocation : publisher.builders.location? = .ok location)
    (htrace : (publisher.buildAt options location { config } []).Traces outside effects result) :
    RunStep.Course (buildSteps publisher.builders publisher.lists options config)
      (exchangesOf effects) result.1
      (Concluded publisher.builders publisher.lists options config (exchangesOf effects) result.1
        result.2.labels) := by
  have hsteps : buildSteps publisher.builders publisher.lists options config =
      (if options.publish then [publisher.builders.builder.publishing config] else [])
        ++ if options.list then publisher.lists.builder.listSteps location else [] := by
    simp [buildSteps, hbuild, hlocation]
  rw [hsteps]
  obtain ⟨published, front, _, hpublish, hrest, rfl⟩ := Plan.traces_bind.1 htrace
  obtain ⟨hfront, hpublished⟩ := publishStep_traces hpublish
  rw [exchangesOf_append]
  cases published with
  | error failure =>
      obtain ⟨rfl, rfl⟩ := Plan.traces_pure.1 hrest
      refine .inl ⟨failure, rfl, ?_⟩
      simpa using hfront.append_of_failed _
  | ok outcome =>
      obtain rfl := hpublished outcome rfl
      obtain ⟨⟨listed, timings⟩, back, last, hlist, hconclude, rfl⟩ := Plan.traces_bind.1 hrest
      obtain ⟨rfl, rfl⟩ := Plan.traces_pure.1 hconclude
      rw [List.append_nil]
      rcases listStep_traces hlist with ⟨failure, rfl, hwanted, htaken⟩ |
        ⟨hwanted, hran, heq⟩ | ⟨scanned, output, hwanted, hran, rfl, hlabels⟩
      · refine .inl ⟨failure, rfl, ?_⟩
        simpa [hwanted] using hfront.append htaken
      · obtain ⟨rfl, rfl⟩ := Prod.mk.inj heq
        refine .inr ⟨?_, .unlisted hbuild hlocation hwanted⟩
        simpa [hwanted, hran] using hfront.append .nil
      · have htaken : RunStep.Taken (publisher.lists.builder.listSteps location)
            (exchangesOf back) none := by
          rw [hran]
          exact .succeeded _ scanned (.succeeded _ output .nil)
        have hlast : exchangesOf front ++ exchangesOf back =
            (exchangesOf front
                ++ [(publisher.lists.builder.listCommand .scan location, .ok scanned)])
              ++ [(publisher.lists.builder.listCommand .read location, .ok output)] := by
          simp [hran]
        rw [hlabels]
        cases hvalue : Builder.parseList output with
        | error failure =>
            refine .inr ⟨?_, .unreadable hbuild hlocation hwanted hlast hvalue⟩
            simpa [hwanted] using hfront.append htaken
        | ok value =>
            refine .inr ⟨?_, .listed hbuild hlocation hwanted hlast hvalue⟩
            simpa [hwanted] using hfront.append htaken

/-- A build takes its steps until one fails; if none does, it is concluded. -/
theorem build_traces {metadata : Metadata} {result : Except Failure BuildOutcome × Timings}
    (htrace : (publisher.build options metadata []).Traces outside effects result) :
    let config := BuildConfig.assemble publisher.settings metadata
    RunStep.Course (buildSteps publisher.builders publisher.lists options config)
      (exchangesOf effects) result.1
      (Concluded publisher.builders publisher.lists options config (exchangesOf effects) result.1
        result.2.labels) := by
  intro config
  obtain ⟨_, hrest, rfl⟩ := Plan.traces_logged_bind.1 htrace
  cases hbuild : options.build with
  | false =>
      simp only [hbuild] at hrest
      obtain ⟨_, hpure, rfl⟩ := Plan.traces_logged_bind.1 hrest
      obtain ⟨rfl, rfl⟩ := Plan.traces_pure.1 hpure
      refine .inr ⟨?_, .unbuilt hbuild⟩
      simpa [buildSteps, hbuild, Effect.exchange?] using RunStep.Taken.nil
  | true =>
      simp only [hbuild] at hrest
      cases hlocation : publisher.builders.location? with
      | error failure =>
          simp only [hlocation] at hrest
          obtain ⟨rfl, rfl⟩ := Plan.traces_pure.1 hrest
          refine .inr ⟨?_, .unplaced hbuild hlocation⟩
          simpa [buildSteps, hbuild, hlocation, Effect.exchange?] using RunStep.Taken.nil
      | ok location =>
          simp only [hlocation] at hrest
          obtain ⟨_, hresolved, rfl⟩ := Plan.traces_logged_bind.1 hrest
          obtain ⟨_, hsteps, rfl⟩ := Plan.traces_logged_bind.1 hresolved
          simpa [Effect.exchange?] using buildAt_traces hbuild hlocation hsteps

/-! ## Whole runs -/

/-- The second request inside the log group gives what the collector holds, so that the group is a
build under the metadata of the run, and the early way out of it is never taken. -/
theorem buildGroup_of_held {metadata : Metadata} {timings : Timings}
    (hheld : publisher.collector.collected = some (.ok metadata)) :
    publisher.buildGroup options timings =
      (do return (← publisher.build options metadata timings, publisher)) := by
  rw [buildGroup, Collector.collect_of_held hheld]
  rfl

/-- A run once the metadata is there does what its build does. -/
theorem runWith_traces {runId : RunId} {start : Duration} {metadata : Metadata}
    {result : Except Failure Report × Publisher}
    (hheld : publisher.collector.collected = some (.ok metadata))
    (htrace : (publisher.runWith options runId start metadata).Traces outside effects result) :
    ∃ inner built timings, (publisher.build options metadata []).Traces outside inner built ∧
      exchangesOf effects = exchangesOf inner ∧
      announcedOf effects = .group "build it" :: (announcedOf inner ++ .endGroup ::
        if result.1.isOk then [.notice "all done!"] else []) ∧
      timings.labels = built.2.labels ++ ["TOTAL"] ∧
      result = (built.1.map fun outcome => outcome.report runId metadata timings, publisher) := by
  rw [runWith, buildGroup_of_held hheld] at htrace
  obtain ⟨_, hlogged, rfl⟩ := Plan.traces_logged_bind.1 htrace
  obtain ⟨_, opening, _, hopen, hgrouped, rfl⟩ := Plan.traces_bind.1 hlogged
  obtain ⟨⟨⟨built, timings⟩, _⟩, _, _, hgroup, hended, rfl⟩ := Plan.traces_bind.1 hgrouped
  obtain ⟨_, inner, _, hbuild, hpure, rfl⟩ := Plan.traces_bind.1 hgroup
  obtain ⟨rfl, hkept⟩ := Plan.traces_pure.1 hpure
  obtain ⟨rfl, rfl⟩ := Prod.mk.inj hkept
  obtain ⟨_, closing, _, hclose, hrest, rfl⟩ := Plan.traces_bind.1 hended
  obtain ⟨hopened, hopenRan⟩ := Plan.traces_emit hopen
  obtain ⟨hclosed, hcloseRan⟩ := Plan.traces_emit hclose
  cases built with
  | error failure =>
      obtain ⟨rfl, rfl⟩ := Plan.traces_pure.1 hrest
      refine ⟨inner, _, timings.record "TOTAL" ⟨0, 0⟩, hbuild, ?_, ?_, ?_, rfl⟩
      · simp [Effect.exchange?, hopenRan, hcloseRan]
      · simp [Effect.announcement?, hopened, hclosed, Except.isOk, Except.toBool]
      · simp [Timings.record, Timings.labels]
  | ok outcome =>
      simp only [Plan.traces_bind, Plan.traces_elapsed, Plan.traces_pure] at hrest
      obtain ⟨_, _, _, ⟨_, rfl, -⟩, ⟨total, noting, _, hnote,
        ⟨_, noticing, _, hnotice, ⟨rfl, rfl⟩, rfl⟩, rfl⟩, rfl⟩ := hrest
      obtain ⟨hnoteRan, hlabels⟩ := Timings.note_traces hnote
      have hnoteSilent : announcedOf noting = [] :=
        Plan.Only.silent (Timings.note_only (by rfl)) _ _ hnote
      obtain ⟨hnoticed, hnoticeRan⟩ := Plan.traces_emit hnotice
      refine ⟨inner, _, total, hbuild, ?_, ?_, hlabels, rfl⟩
      · simp [Effect.exchange?, hopenRan, hcloseRan, hnoteRan, hnoticeRan]
      · simp [Effect.announcement?, hopened, hclosed, hnoteSilent, hnoticed, Except.isOk,
          Except.toBool]

/-- The publisher when collecting has come to an outcome. -/
def holding (publisher : Publisher) (outcome : Except QueryFailure Metadata) : Publisher :=
  { publisher with collector := { publisher.collector with collected := some outcome } }

/-- A run collects, and then ends with the failure of that or goes on with the metadata.  The
outcome of collecting is held from then on. -/
theorem publish_traces {result : Except Failure Report × Publisher}
    (htrace : (publisher.publish options).Traces outside effects result) :
    ∃ asked collected later, publisher.collector.collect.Traces outside asked collected ∧
      result.2 = publisher.holding collected.1 ∧
      exchangesOf effects = exchangesOf asked ++ exchangesOf later ∧
      announcedOf effects = announcedOf asked ++ announcedOf later ∧
      ((∃ failure, collected.1 = .error failure ∧ later = [] ∧
          result.1 = .error (.metadata failure)) ∨
        ∃ metadata runId start, collected.1 = .ok metadata ∧
          ((publisher.holding (.ok metadata)).runWith options runId start metadata).Traces outside
            later result) := by
  obtain ⟨bits, _, _, hbits, hwithin, rfl⟩ := Plan.traces_bind.1 htrace
  obtain ⟨_, rfl, -⟩ := Plan.traces_randomBits.1 hbits
  obtain ⟨inner, hinner, rfl⟩ := Plan.traces_within.1 hwithin
  obtain ⟨start, _, _, hstart, hstarted, rfl⟩ := Plan.traces_bind.1 hinner
  obtain ⟨_, rfl, -⟩ := Plan.traces_elapsed.1 hstart
  obtain ⟨⟨collected, collector⟩, asked, later, hcollect, hrest, rfl⟩ :=
    Plan.traces_bind.1 hstarted
  have hcollector : collector = { publisher.collector with collected := some collected } :=
    (Collector.collect_traces hcollect).1
  subst hcollector
  cases collected with
  | error failure =>
      obtain ⟨rfl, rfl⟩ := Plan.traces_pure.1 hrest
      exact ⟨asked, _, [], hcollect, rfl, by simp [Effect.exchange?],
        by simp [Effect.announcement?], .inl ⟨failure, rfl, rfl, rfl⟩⟩
  | ok metadata =>
      have hrun : ((publisher.holding (.ok metadata)).runWith options (RunId.ofRandom bits) start
          metadata).Traces outside later result := hrest
      obtain ⟨_, _, _, -, -, -, -, hresult⟩ := runWith_traces rfl hrun
      exact ⟨asked, _, later, hcollect, by rw [hresult], by simp [Effect.exchange?],
        by simp [Effect.announcement?], .inr ⟨metadata, _, start, rfl, hrun⟩⟩

end Publisher

end ArtifactRelease
