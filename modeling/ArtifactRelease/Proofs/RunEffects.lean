import ArtifactRelease.Proofs.PublishRun

/-!
# The effects of a run

Which kinds of effects the parts of a run have, whatever the commands that they run come to.  What
allows running commands, and logging anything but the tags found, allows a build; the tags are
found by collecting alone, and only the run around a build announces workflow commands.
-/

namespace ArtifactRelease

variable {σ : Type} {outside : Outside σ} {allowed : Effect → Prop}

/-- Commands may be run, and anything but the tags found may be logged. -/
structure Admits (outside : Outside σ) (allowed : Effect → Prop) : Prop where
  answered : ∀ command state, ∀ effect ∈ (outside.run command state).1.effects command,
    allowed effect
  logged : ∀ event : Log.Event, (∀ tags, event ≠ .foundTags tags) → allowed (.logged event)

theorem Admits.only_logged (hadmits : Admits outside allowed) {event : Log.Event}
    (hevent : ∀ tags, event ≠ .foundTags tags) : (Plan.logged event).Only outside allowed :=
  Plan.only_logged (hadmits.logged event hevent)

/-- Running a command and making something of its outcome does nothing else. -/
theorem Admits.outcome {ε α : Type} (hadmits : Admits outside allowed) (command : Child.Command)
    (read : String → Except ε α) (failure : Child.Failure → ε) :
    Plan.Only outside allowed (do
      match ← Plan.command command with
      | .ok output => return read output
      | .error cause => return .error (failure cause)) := by
  refine (Plan.only_command (hadmits.answered command)).bind fun outcome => ?_
  cases outcome with
  | ok output => exact Plan.only_pure _
  | error cause => exact Plan.only_pure _

/-! ## Collecting -/

theorem VersionControl.ask_only (hadmits : Admits outside allowed)
    (versionControl : VersionControl) (query : Query) :
    (versionControl.ask query).Only outside allowed :=
  (hadmits.only_logged (by simp)).bind fun _ =>
    hadmits.outcome (versionControl.command query) Except.ok (QueryFailure.mk query)

namespace Collector

variable (collector : Collector)

theorem commit_only (hadmits : Admits outside allowed) :
    collector.commit.Only outside allowed := by
  rw [commit]
  cases collector.givenCommit with
  | some commit => exact (hadmits.only_logged (by simp)).bind fun _ => Plan.only_pure _
  | none => exact (VersionControl.ask_only hadmits _ _).bind fun _ => Plan.only_pure _

theorem compute_only (hadmits : Admits outside allowed)
    (hfound : ∀ tags, allowed (.logged (.foundTags tags))) :
    collector.compute.Only outside allowed := by
  refine (collector.commit_only hadmits).bind fun commit => ?_
  cases commit with
  | error failure => exact Plan.only_pure _
  | ok commit =>
      have htags : collector.versionControl.tagsAtHead.Only outside allowed :=
        (VersionControl.ask_only hadmits _ _).bind fun _ => Plan.only_pure _
      refine htags.bind fun tags => ?_
      cases tags with
      | error failure => exact Plan.only_pure _
      | ok tags =>
          exact (Plan.only_logged (hfound tags)).bind fun _ => Plan.only_now.bind fun _ =>
            Plan.only_pure _

theorem collect_only (hadmits : Admits outside allowed)
    (hfound : ∀ tags, allowed (.logged (.foundTags tags))) :
    collector.collect.Only outside allowed := by
  rw [collect]
  split
  · exact Plan.only_pure _
  · exact (collector.compute_only hadmits hfound).bind fun _ => Plan.only_pure _

end Collector

/-! ## Building -/

theorem Timings.time_only {α : Type} (hadmits : Admits outside allowed) {step : Plan α}
    (timings : Timings) (label : String) (hstep : step.Only outside allowed) :
    (timings.time label step).Only outside allowed :=
  Plan.only_elapsed.bind fun _ => hstep.bind fun _ => Plan.only_elapsed.bind fun _ =>
    (note_only (hadmits.logged _ (by simp))).bind fun _ => Plan.only_pure _

namespace Builder

variable (builder : Builder) (location : ArtifactLocation)

theorem publish_only (hadmits : Admits outside allowed) (config : BuildConfig) :
    (builder.publish config location).Only outside allowed :=
  (hadmits.only_logged (by simp)).bind fun _ =>
    hadmits.outcome (builder.publishCommand config) (fun _ => Except.ok ()) Failure.builder

theorem scan_only (hadmits : Admits outside allowed) :
    (builder.scan location).Only outside allowed :=
  hadmits.outcome (builder.listCommand .scan location) (fun _ => Except.ok ())
    (Failure.artifactList .scan)

theorem readList_only (hadmits : Admits outside allowed) :
    (builder.readList location).Only outside allowed :=
  hadmits.outcome (builder.listCommand .read location) parseList (Failure.artifactList .read)

end Builder

namespace Publisher

variable (publisher : Publisher) (options : PublishOptions) (location : ArtifactLocation)

theorem listBucket_only (hadmits : Admits outside allowed) (timings : Timings) :
    (publisher.listBucket location timings).Only outside allowed := by
  refine (hadmits.only_logged (by simp)).bind fun _ => ?_
  refine (timings.time_only hadmits _ (Builder.scan_only _ _ hadmits)).bind
    fun (scanned, timings) => ?_
  cases scanned with
  | error failure => exact Plan.only_pure _
  | ok =>
      refine (timings.time_only hadmits _ (Builder.readList_only _ _ hadmits)).bind
        fun (value, timings) => ?_
      cases value with
      | error failure => exact Plan.only_pure _
      | ok value =>
          cases hlisted : listed? value with
          | none =>
              simp only [hlisted]
              exact Plan.only_pure _
          | some count =>
              simp only [hlisted]
              exact (hadmits.only_logged (by simp)).bind fun _ => Plan.only_pure _

theorem publishStep_only (hadmits : Admits outside allowed) (outcome : BuildOutcome) :
    (publisher.publishStep options location outcome).Only outside allowed := by
  rw [publishStep]
  split
  · refine (Builder.publish_only _ _ hadmits _).bind fun published => ?_
    cases published <;> exact Plan.only_pure _
  · exact Plan.only_pure _

theorem listStep_only (hadmits : Admits outside allowed) (outcome : BuildOutcome)
    (timings : Timings) :
    (publisher.listStep options location outcome timings).Only outside allowed := by
  rw [listStep]
  split
  · exact (listBucket_only _ _ hadmits _).bind fun _ => Plan.only_pure _
  · exact Plan.only_pure _

theorem buildAt_only (hadmits : Admits outside allowed) (outcome : BuildOutcome)
    (timings : Timings) :
    (publisher.buildAt options location outcome timings).Only outside allowed := by
  refine (publisher.publishStep_only options location hadmits _).bind fun published => ?_
  cases published with
  | error failure => exact Plan.only_pure _
  | ok outcome =>
      exact (publisher.listStep_only options location hadmits _ _).bind fun _ => Plan.only_pure _

/-- A build leaves the tags to the collector, and the log group to the run around it. -/
theorem build_only (hadmits : Admits outside allowed) (metadata : Metadata) (timings : Timings) :
    (publisher.build options metadata timings).Only outside allowed := by
  refine (hadmits.only_logged (by simp)).bind fun _ => ?_
  split
  · exact (hadmits.only_logged (by simp)).bind fun _ => Plan.only_pure _
  · split
    · exact Plan.only_pure _
    · exact (hadmits.only_logged (by simp)).bind fun _ =>
        (hadmits.only_logged (by simp)).bind fun _ =>
        publisher.buildAt_only options _ hadmits _ _

/-- A run once the metadata is there builds, and announces what it does. -/
theorem runWith_only (hadmits : Admits outside allowed)
    (hannounced : ∀ command delivery, allowed (.announced command delivery)) (runId : RunId)
    (start : Duration) {metadata : Metadata}
    (hheld : publisher.collector.collected = some (.ok metadata)) :
    (publisher.runWith options runId start metadata).Only outside allowed := by
  have hemit (command : Workflow.Command) : (Plan.emit command).Only outside allowed :=
    Plan.only_emit (hannounced command) fun _ => hadmits.logged _ (by simp)
  rw [runWith, buildGroup_of_held hheld]
  apply (hadmits.only_logged (by simp)).bind
  intro _
  apply (hemit _).bind
  intro _
  apply ((publisher.build_only options hadmits metadata _).bind fun _ => Plan.only_pure _).bind
  rintro ⟨⟨built, timings⟩, publisher⟩
  apply (hemit _).bind
  intro _
  cases built with
  | error failure => exact Plan.only_pure _
  | ok outcome =>
      exact Plan.only_elapsed.bind fun _ =>
        (Timings.note_only (hadmits.logged _ (by simp))).bind fun _ =>
        (hemit _).bind fun _ => Plan.only_pure _

/-- What a run does besides collecting is to announce things and build, in a span of the log. -/
theorem publish_only (hadmits : Admits outside allowed)
    (hannounced : ∀ command delivery, allowed (.announced command delivery))
    (hentered : ∀ span, allowed (.entered span)) (hleft : allowed .left)
    (hcollect : publisher.collector.collect.Only outside allowed) :
    (publisher.publish options).Only outside allowed := by
  refine Plan.only_randomBits.bind fun bits => Plan.Only.within ?_ (hentered _) hleft
  refine Plan.only_elapsed.bind fun start => hcollect.bind_of_traces ?_
  intro asked (collected, collector) hasked
  cases collected with
  | error failure => exact Plan.only_pure _
  | ok metadata =>
      -- the collector holds the metadata by now, which is all that the build asks it for
      have hheld : collector.collected = some (.ok metadata) := Collector.held_of_traces hasked
      exact runWith_only _ _ hadmits hannounced _ _ hheld

end Publisher

end ArtifactRelease
