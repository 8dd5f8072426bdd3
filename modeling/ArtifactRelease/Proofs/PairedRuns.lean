import ArtifactRelease.Proofs.Alike
import ArtifactRelease.Proofs.PublishCommands
import ArtifactRelease.Rehearsal

/-!
# Runs side by side

Two worlds are run side by side.  In states that go together they answer alike commands alike, and
their clocks may differ.  If the publishers of the two runs can be exchanged for each other then
everything the two runs come to is alike; how far their effects agree is left to the pair of worlds,
since that depends on what becomes of the workflow commands.
-/

namespace ArtifactRelease

/-- The second world answers alike commands as the first one does, as long as their states go
together.  Clocks and random numbers need not agree unless that is asked for. -/
structure Outside.Resembles {σ τ : Type} (synchronous : Prop) (related : σ → τ → Prop)
    (first : Outside σ) (second : Outside τ) : Prop where
  run : ∀ {command other state counterpart}, command.Alike synchronous other →
    related state counterpart →
    (first.run command state).1.Alike synchronous (second.run other counterpart).1 ∧
      related (first.run command state).2 (second.run other counterpart).2
  wallClock : ∀ {state counterpart}, related state counterpart →
    (synchronous → (first.wallClock state).1 = (second.wallClock counterpart).1) ∧
      related (first.wallClock state).2 (second.wallClock counterpart).2
  stopwatch : ∀ {state counterpart}, related state counterpart →
    (synchronous → (first.stopwatch state).1 = (second.stopwatch counterpart).1) ∧
      related (first.stopwatch state).2 (second.stopwatch counterpart).2
  random : ∀ {state counterpart}, related state counterpart →
    (synchronous → (first.random state).1 = (second.random counterpart).1) ∧
      related (first.random state).2 (second.random counterpart).2

/-- Every world resembles itself. -/
theorem Outside.resembles_self {σ : Type} (world : Outside σ) : world.Resembles True Eq world where
  run {command other state counterpart} hcommand hstate := by
    subst hstate
    rw [hcommand.eq trivial]
    exact ⟨⟨rfl, List.forall₂_same.2 fun event _ => .same event⟩, rfl⟩
  wallClock hstate := by simp [hstate]
  stopwatch hstate := by simp [hstate]
  random hstate := by simp [hstate]

/-- Two worlds, with the states that go together and the effects that do. -/
structure Pair (σ τ : Type) where
  first : Outside σ
  second : Outside τ
  related : σ → τ → Prop
  corresponds : List Effect → List Effect → Prop

variable {σ τ α β γ δ : Type}

structure Pair.Matches (pair : Pair σ τ) (values : α → β → Prop) (first : Performance α σ)
    (second : Performance β τ) : Prop where
  value : values first.value second.value
  effects : pair.corresponds first.effects second.effects
  state : pair.related first.state second.state

/-- Performed from states that go together, two plans go together. -/
def Plan.Paired (pair : Pair σ τ) (values : α → β → Prop) (plan : Plan α) (other : Plan β) :
    Prop :=
  ∀ state counterpart, pair.related state counterpart →
    pair.Matches values (plan.perform pair.first state) (other.perform pair.second counterpart)

/-- The worlds of a pair resemble each other, effects correspond that are alike and announce
nothing, and so do those of announcing the same workflow command. -/
structure Pair.Faithful (synchronous : Prop) (pair : Pair σ τ) : Prop where
  resembles : pair.first.Resembles synchronous pair.related pair.second
  quiet : ∀ {effects others}, List.Forall₂ (Effect.Alike synchronous) effects others →
    announcedOf effects = [] → pair.corresponds effects others
  append : ∀ {earlier later others last}, pair.corresponds earlier others →
    pair.corresponds later last → pair.corresponds (earlier ++ later) (others ++ last)
  emit : ∀ command, (Plan.emit command).Paired pair Eq (Plan.emit command)

variable {synchronous : Prop} {pair : Pair σ τ}

namespace Plan

/-! ## Sequences and requests -/

theorem paired_pure (hpair : pair.Faithful synchronous) {values : α → β → Prop} {value : α}
    {other : β} (hvalue : values value other) :
    (pure value : Plan α).Paired pair values (pure other) :=
  fun _ _ hrelated => ⟨hvalue, hpair.quiet .nil rfl, hrelated⟩

theorem Paired.bind (hpair : pair.Faithful synchronous) {values : α → β → Prop}
    {results : γ → δ → Prop} {plan : Plan α} {other : Plan β} {next : α → Plan γ}
    {otherNext : β → Plan δ} (hplan : plan.Paired pair values other)
    (hnext : ∀ value otherValue, values value otherValue →
      (next value).Paired pair results (otherNext otherValue)) :
    (plan >>= next).Paired pair results (other >>= otherNext) := by
  intro state counterpart hrelated
  obtain ⟨hvalue, hearlier, hbetween⟩ := hplan state counterpart hrelated
  obtain ⟨hresult, hlater, hfinal⟩ := hnext _ _ hvalue _ _ hbetween
  rw [perform_bind, perform_bind]
  exact ⟨hresult, hpair.append hearlier hlater, hfinal⟩

theorem paired_logged (hpair : pair.Faithful synchronous) {event other : Log.Event}
    (hevent : event.Alike synchronous other) :
    (logged event).Paired pair Eq (logged other) :=
  fun _ _ hrelated => ⟨rfl, hpair.quiet (.cons (.logged hevent) .nil) rfl, hrelated⟩

theorem paired_command (hpair : pair.Faithful synchronous) {command other : Child.Command}
    (hcommand : command.Alike synchronous other) :
    (Plan.command command).Paired pair Eq (Plan.command other) := by
  intro state counterpart hrelated
  obtain ⟨hanswer, hafter⟩ := hpair.resembles.run hcommand hrelated
  rw [perform_command, perform_command]
  exact ⟨hanswer.outcome_eq,
    hpair.quiet (hanswer.effects_alike hcommand) (Child.announcedOf_answer_effects _ _), hafter⟩

theorem paired_now (hpair : pair.Faithful synchronous) :
    now.Paired pair (fun first second => synchronous → first = second) now := by
  intro state counterpart hrelated
  obtain ⟨hclock, hafter⟩ := hpair.resembles.wallClock hrelated
  exact ⟨hclock, hpair.quiet .nil rfl, hafter⟩

theorem paired_elapsed (hpair : pair.Faithful synchronous) :
    elapsed.Paired pair (fun first second => synchronous → first = second) elapsed := by
  intro state counterpart hrelated
  obtain ⟨hclock, hafter⟩ := hpair.resembles.stopwatch hrelated
  exact ⟨hclock, hpair.quiet .nil rfl, hafter⟩

theorem paired_randomBits (hpair : pair.Faithful synchronous) :
    randomBits.Paired pair (fun first second => synchronous → first = second) randomBits := by
  intro state counterpart hrelated
  obtain ⟨hbits, hafter⟩ := hpair.resembles.random hrelated
  exact ⟨hbits, hpair.quiet .nil rfl, hafter⟩

theorem Paired.within (hpair : pair.Faithful synchronous) {values : α → β → Prop}
    {span otherSpan : Log.Span} (hspan : synchronous → span = otherSpan) {plan : Plan α}
    {other : Plan β} (hplan : plan.Paired pair values other) :
    (within span plan).Paired pair values (within otherSpan other) := by
  have henter : (enter span (done ())).Paired pair Eq (enter otherSpan (done ())) :=
    fun _ _ hrelated => ⟨rfl, hpair.quiet (.cons (.entered hspan) .nil) rfl, hrelated⟩
  have hleave (value : α) (otherValue : β) (hvalue : values value otherValue) :
      (leave (done value)).Paired pair values (leave (done otherValue)) :=
    fun _ _ hrelated => ⟨hvalue, hpair.quiet (.cons .left .nil) rfl, hrelated⟩
  exact henter.bind hpair fun _ _ _ => hplan.bind hpair hleave

/-- Running a command and making something of its outcome. -/
theorem paired_outcome (hpair : pair.Faithful synchronous) {ε : Type}
    {command other : Child.Command} (hcommand : command.Alike synchronous other)
    (read : String → Except ε α) (failure : Child.Failure → ε) :
    Plan.Paired pair Eq
      (do match ← Plan.command command with
        | .ok output => return read output
        | .error cause => return .error (failure cause))
      (do match ← Plan.command other with
        | .ok output => return read output
        | .error cause => return .error (failure cause)) := by
  apply (paired_command hpair hcommand).bind hpair
  rintro outcome _ rfl
  cases outcome with
  | ok output => exact paired_pure hpair rfl
  | error cause => exact paired_pure hpair rfl

end Plan

open Plan

/-! ## Collecting -/

theorem VersionControl.ask_paired (hpair : pair.Faithful synchronous)
    (versionControl : VersionControl) (query : Query) :
    (versionControl.ask query).Paired pair Eq (versionControl.ask query) :=
  (paired_logged hpair (.same _)).bind hpair fun _ _ _ =>
    paired_outcome hpair (.same (versionControl.command query)) Except.ok (QueryFailure.mk query)

namespace Collector

variable (collector : Collector)

theorem commit_paired (hpair : pair.Faithful synchronous) :
    collector.commit.Paired pair Eq collector.commit := by
  rw [commit]
  cases collector.givenCommit with
  | some commit =>
      apply (paired_logged hpair (.same _)).bind hpair
      intro _ _ _
      exact paired_pure hpair rfl
  | none =>
      apply (VersionControl.ask_paired hpair _ _).bind hpair
      rintro answer _ rfl
      exact paired_pure hpair rfl

theorem compute_paired (hpair : pair.Faithful synchronous) :
    collector.compute.Paired pair (EndAlike (Metadata.Alike synchronous)) collector.compute := by
  apply (collector.commit_paired hpair).bind hpair
  rintro commit _ rfl
  cases commit with
  | error failure => exact paired_pure hpair (.error failure)
  | ok commit =>
      have htags : collector.versionControl.tagsAtHead.Paired pair Eq
          collector.versionControl.tagsAtHead := by
        apply (VersionControl.ask_paired hpair _ _).bind hpair
        rintro answer _ rfl
        exact paired_pure hpair rfl
      apply htags.bind hpair
      rintro tags _ rfl
      cases tags with
      | error failure => exact paired_pure hpair (.error failure)
      | ok tags =>
          apply (paired_logged hpair (.same _)).bind hpair
          intro _ _ _
          apply (paired_now hpair).bind hpair
          intro instant other hclock
          apply paired_pure hpair
          exact .ok ⟨rfl, fun hsynchronous => by rw [hclock hsynchronous], rfl, rfl⟩

/-- What is collected is alike, and is held from then on. -/
theorem collect_paired (hpair : pair.Faithful synchronous) :
    collector.collect.Paired pair
      (fun first second => EndAlike (Metadata.Alike synchronous) first.1 second.1 ∧
        first.2.collected = some first.1 ∧ second.2.collected = some second.1)
      collector.collect := by
  rw [collect]
  split
  · next outcome hheld =>
      apply paired_pure hpair
      cases outcome with
      | error failure => exact ⟨.error failure, hheld, hheld⟩
      | ok metadata => exact ⟨.ok (.refl metadata), hheld, hheld⟩
  · apply (collector.compute_paired hpair).bind hpair
    intro outcome other hmetadata
    exact paired_pure hpair ⟨hmetadata, rfl, rfl⟩

end Collector

/-! ## Taking timings -/

namespace Timings

variable {timings others : Timings}

theorem note_paired (hpair : pair.Faithful synchronous)
    (htimings : timings.Alike synchronous others) (label : String) {duration other : Duration}
    (hduration : synchronous → duration = other) :
    (timings.note label duration).Paired pair (Alike synchronous) (others.note label other) := by
  apply (paired_logged hpair (.timing label hduration)).bind hpair
  intro _ _ _
  apply paired_pure hpair
  constructor
  · have hlabels := htimings.labels_eq
    simp only [labels, record, List.map_append] at hlabels ⊢
    rw [hlabels]
    rfl
  · intro hsynchronous
    rw [htimings.durations_eq hsynchronous, hduration hsynchronous]

theorem time_paired (hpair : pair.Faithful synchronous)
    (htimings : timings.Alike synchronous others) (label : String) {values : α → β → Prop}
    {step : Plan α} {other : Plan β} (hstep : step.Paired pair values other) :
    (timings.time label step).Paired pair
      (fun first second => values first.1 second.1 ∧ first.2.Alike synchronous second.2)
      (others.time label other) := by
  apply (paired_elapsed hpair).bind hpair
  intro start otherStart hstart
  apply hstep.bind hpair
  intro value otherValue hvalue
  apply (paired_elapsed hpair).bind hpair
  intro stop otherStop hstop
  have hduration (hsynchronous : synchronous) :
      Duration.between start stop = Duration.between otherStart otherStop := by
    rw [hstart hsynchronous, hstop hsynchronous]
  apply (note_paired hpair htimings label hduration).bind hpair
  intro noted otherNoted hnoted
  exact paired_pure hpair ⟨hvalue, hnoted⟩

end Timings

/-! ## Building -/

namespace Builder

variable (builder : Builder) (location : ArtifactLocation)

theorem publish_paired (hpair : pair.Faithful synchronous) {config other : BuildConfig}
    (hconfig : config.Alike synchronous other) :
    (builder.publish config location).Paired pair Eq (builder.publish other location) :=
  (paired_logged hpair (.same _)).bind hpair fun _ _ _ =>
    paired_outcome hpair (.configured builder hconfig) (fun _ => Except.ok ()) Failure.builder

theorem scan_paired (hpair : pair.Faithful synchronous) :
    (builder.scan location).Paired pair Eq (builder.scan location) :=
  paired_outcome hpair (.same (builder.listCommand .scan location)) (fun _ => Except.ok ())
    (Failure.artifactList .scan)

theorem readList_paired (hpair : pair.Faithful synchronous) :
    (builder.readList location).Paired pair Eq (builder.readList location) :=
  paired_outcome hpair (.same (builder.listCommand .read location)) parseList
    (Failure.artifactList .read)

end Builder

structure BuildOutcome.Alike (synchronous : Prop) (first second : BuildOutcome) : Prop where
  config_alike : first.config.Alike synchronous second.config
  location_eq : first.location = second.location
  published_eq : first.published = second.published
  artifactList_eq : first.artifactList = second.artifactList

namespace Publisher

/-- Two publishers build the same way, if they are asked for the same. -/
structure BuildsAlike (options : PublishOptions) (publisher other : Publisher) : Prop where
  builder_eq : publisher.builders.builder = other.builders.builder
  lists_eq : publisher.lists = other.lists
  assemble_eq : ∀ metadata, BuildConfig.assemble publisher.settings metadata =
    BuildConfig.assemble other.settings metadata
  location_eq : options.build = true → publisher.builders.location? = other.builders.location?

structure Interchangeable (options : PublishOptions) (publisher other : Publisher) : Prop
    extends BuildsAlike options publisher other where
  collector_eq : publisher.collector = other.collector

theorem Interchangeable.refl (options : PublishOptions) (publisher : Publisher) :
    Interchangeable options publisher publisher :=
  ⟨⟨rfl, rfl, fun _ => rfl, fun _ => rfl⟩, rfl⟩

variable {options : PublishOptions} {publisher other : Publisher}

/-- What a collector holds has no part in a build. -/
theorem BuildsAlike.withCollectors (hsame : BuildsAlike options publisher other)
    (collector otherCollector : Collector) :
    BuildsAlike options { publisher with collector } { other with collector := otherCollector } :=
  ⟨hsame.builder_eq, hsame.lists_eq, hsame.assemble_eq, hsame.location_eq⟩

theorem BuildsAlike.config_alike (hsame : BuildsAlike options publisher other)
    {metadata otherMetadata : Metadata} (hmetadata : metadata.Alike synchronous otherMetadata) :
    (BuildConfig.assemble publisher.settings metadata).Alike synchronous
      (BuildConfig.assemble other.settings otherMetadata) := by
  rw [← hsame.assemble_eq]
  exact ⟨hmetadata, rfl⟩

variable {timings others : Timings}

theorem listBucket_paired (hpair : pair.Faithful synchronous)
    (hsame : BuildsAlike options publisher other) (location : ArtifactLocation)
    (htimings : timings.Alike synchronous others) :
    (publisher.listBucket location timings).Paired pair
      (fun first second => first.1 = second.1 ∧ first.2.Alike synchronous second.2)
      (other.listBucket location others) := by
  rw [listBucket, listBucket, ← hsame.lists_eq]
  apply (paired_logged hpair (.same _)).bind hpair
  intro _ _ _
  apply (Timings.time_paired hpair htimings _
    (publisher.lists.builder.scan_paired _ hpair)).bind hpair
  rintro ⟨scanned, timings⟩ ⟨_, others⟩ ⟨rfl, htimings⟩
  cases scanned with
  | error failure => exact paired_pure hpair ⟨rfl, htimings⟩
  | ok =>
      apply (Timings.time_paired hpair htimings _
        (publisher.lists.builder.readList_paired _ hpair)).bind hpair
      rintro ⟨value, timings⟩ ⟨_, others⟩ ⟨rfl, htimings⟩
      cases value with
      | error failure => exact paired_pure hpair ⟨rfl, htimings⟩
      | ok value =>
          cases hlisted : listed? value with
          | none =>
              simp only [hlisted]
              exact paired_pure hpair ⟨rfl, htimings⟩
          | some count =>
              simp only [hlisted]
              apply (paired_logged hpair (.same _)).bind hpair
              intro _ _ _
              exact paired_pure hpair ⟨rfl, htimings⟩

variable {outcome otherOutcome : BuildOutcome}

theorem publishStep_paired (hpair : pair.Faithful synchronous)
    (hsame : BuildsAlike options publisher other) (location : ArtifactLocation)
    (houtcome : outcome.Alike synchronous otherOutcome) :
    (publisher.publishStep options location outcome).Paired pair
      (EndAlike (BuildOutcome.Alike synchronous))
      (other.publishStep options location otherOutcome) := by
  rw [publishStep, publishStep, ← hsame.builder_eq]
  split
  · apply (publisher.builders.builder.publish_paired _ hpair houtcome.config_alike).bind hpair
    rintro published _ rfl
    cases published with
    | error failure => exact paired_pure hpair (.error failure)
    | ok =>
        apply paired_pure hpair
        exact .ok ⟨houtcome.config_alike, houtcome.location_eq, rfl, houtcome.artifactList_eq⟩
  · exact paired_pure hpair (.ok houtcome)

theorem listStep_paired (hpair : pair.Faithful synchronous)
    (hsame : BuildsAlike options publisher other) (location : ArtifactLocation)
    (houtcome : outcome.Alike synchronous otherOutcome)
    (htimings : timings.Alike synchronous others) :
    (publisher.listStep options location outcome timings).Paired pair
      (fun first second => EndAlike (BuildOutcome.Alike synchronous) first.1 second.1 ∧
        first.2.Alike synchronous second.2)
      (other.listStep options location otherOutcome others) := by
  rw [listStep, listStep]
  split
  · apply (listBucket_paired hpair hsame location htimings).bind hpair
    rintro ⟨value, timings⟩ ⟨_, others⟩ ⟨rfl, htimings⟩
    apply paired_pure hpair
    cases value with
    | error failure => exact ⟨.error failure, htimings⟩
    | ok value =>
        exact ⟨.ok ⟨houtcome.config_alike, houtcome.location_eq, houtcome.published_eq, rfl⟩,
          htimings⟩
  · exact paired_pure hpair ⟨.ok houtcome, htimings⟩

theorem buildAt_paired (hpair : pair.Faithful synchronous)
    (hsame : BuildsAlike options publisher other) (location : ArtifactLocation)
    (houtcome : outcome.Alike synchronous otherOutcome)
    (htimings : timings.Alike synchronous others) :
    (publisher.buildAt options location outcome timings).Paired pair
      (fun first second => EndAlike (BuildOutcome.Alike synchronous) first.1 second.1 ∧
        first.2.Alike synchronous second.2)
      (other.buildAt options location otherOutcome others) := by
  apply (publishStep_paired hpair hsame location houtcome).bind hpair
  intro published otherPublished hpublished
  cases hpublished with
  | error failure => exact paired_pure hpair ⟨.error failure, htimings⟩
  | ok houtcome =>
      apply (listStep_paired hpair hsame location houtcome htimings).bind hpair
      rintro ⟨listed, timings⟩ ⟨otherListed, others⟩ ⟨hlisted, htimings⟩
      apply paired_pure hpair
      cases hlisted with
      | error failure => exact ⟨.error failure, htimings⟩
      | ok houtcome =>
          exact ⟨.ok ⟨houtcome.config_alike, rfl, houtcome.published_eq,
            houtcome.artifactList_eq⟩, htimings⟩

/-- Builds under metadata that are alike. -/
theorem build_paired (hpair : pair.Faithful synchronous)
    (hsame : BuildsAlike options publisher other) {metadata otherMetadata : Metadata}
    (hmetadata : metadata.Alike synchronous otherMetadata)
    (htimings : timings.Alike synchronous others) :
    (publisher.build options metadata timings).Paired pair
      (fun first second => EndAlike (BuildOutcome.Alike synchronous) first.1 second.1 ∧
        first.2.Alike synchronous second.2)
      (other.build options otherMetadata others) := by
  have hconfig := hsame.config_alike hmetadata
  apply (paired_logged hpair (.buildConfig hconfig)).bind hpair
  intro _ _ _
  cases hbuild : options.build with
  | false =>
      apply (paired_logged hpair (.same _)).bind hpair
      intro _ _ _
      exact paired_pure hpair ⟨.ok ⟨hconfig, rfl, rfl, rfl⟩, htimings⟩
  | true =>
      simp only [hsame.location_eq hbuild]
      cases other.builders.location? with
      | error failure => exact paired_pure hpair ⟨.error failure, htimings⟩
      | ok location =>
          apply (paired_logged hpair (.same _)).bind hpair
          intro _ _ _
          apply (paired_logged hpair (.same _)).bind hpair
          intro _ _ _
          exact buildAt_paired hpair hsame location ⟨hconfig, rfl, rfl, rfl⟩ htimings

/-! ## Whole runs -/

theorem runWith_paired (hpair : pair.Faithful synchronous)
    (hsame : BuildsAlike options publisher other) {runId otherRunId : RunId}
    (hrunId : synchronous → runId = otherRunId) {start otherStart : Duration}
    (hstart : synchronous → start = otherStart) {metadata otherMetadata : Metadata}
    (hmetadata : metadata.Alike synchronous otherMetadata)
    (hheld : publisher.collector.collected = some (.ok metadata))
    (hotherHeld : other.collector.collected = some (.ok otherMetadata)) :
    (publisher.runWith options runId start metadata).Paired pair
      (fun first second => EndAlike (Report.Alike synchronous) first.1 second.1)
      (other.runWith options otherRunId otherStart otherMetadata) := by
  rw [runWith, runWith, buildGroup_of_held hheld, buildGroup_of_held hotherHeld]
  apply (paired_logged hpair (.codeMeta hmetadata)).bind hpair
  intro _ _ _
  apply (hpair.emit (.group "build it")).bind hpair
  intro _ _ _
  have hgroup : Plan.Paired pair
      (fun first second => EndAlike (BuildOutcome.Alike synchronous) first.1.1 second.1.1 ∧
        first.1.2.Alike synchronous second.1.2)
      (do return (← publisher.build options metadata [], publisher))
      (do return (← other.build options otherMetadata [], other)) :=
    (build_paired hpair hsame hmetadata (.refl [])).bind hpair fun _ _ hbuilt =>
      paired_pure hpair hbuilt
  apply hgroup.bind hpair
  rintro ⟨⟨built, timings⟩, _⟩ ⟨⟨otherBuilt, others⟩, _⟩ ⟨hbuilt, htimings⟩
  apply (hpair.emit .endGroup).bind hpair
  intro _ _ _
  cases hbuilt with
  | error failure => exact paired_pure hpair (.error failure)
  | ok houtcome =>
      apply (paired_elapsed hpair).bind hpair
      intro stop otherStop hstop
      have htotal (hsynchronous : synchronous) :
          Duration.between start stop = Duration.between otherStart otherStop := by
        rw [hstart hsynchronous, hstop hsynchronous]
      apply (Timings.note_paired hpair htimings "TOTAL" htotal).bind hpair
      intro noted otherNoted hnoted
      apply (hpair.emit (.notice "all done!")).bind hpair
      intro _ _ _
      apply paired_pure hpair
      exact .ok ⟨hrunId, hmetadata, houtcome.config_alike, houtcome.location_eq,
        houtcome.published_eq, houtcome.artifactList_eq, hnoted⟩

theorem publish_paired (hpair : pair.Faithful synchronous)
    (hsame : Interchangeable options publisher other) :
    (publisher.publish options).Paired pair
      (fun first second => EndAlike (Report.Alike synchronous) first.1 second.1)
      (other.publish options) := by
  apply (paired_randomBits hpair).bind hpair
  intro bits otherBits hbits
  have hrunId (hsynchronous : synchronous) :
      RunId.ofRandom bits = RunId.ofRandom otherBits := by
    rw [hbits hsynchronous]
  apply Paired.within hpair (fun hsynchronous => by rw [hrunId hsynchronous])
  apply (paired_elapsed hpair).bind hpair
  intro start otherStart hstart
  rw [← hsame.collector_eq]
  apply (publisher.collector.collect_paired hpair).bind hpair
  rintro ⟨collected, collector⟩ ⟨otherCollected, otherCollector⟩ ⟨hcollected, hheld, hotherHeld⟩
  cases hcollected with
  | error failure => exact paired_pure hpair (.error (Failure.metadata failure))
  | ok hmetadata =>
      have hbuilds := hsame.toBuildsAlike.withCollectors collector otherCollector
      exact runWith_paired hpair hbuilds hrunId hstart hmetadata hheld hotherHeld

end Publisher

/-- Invocations whose publishers can be exchanged, or cannot be made for the same reason. -/
theorem CommandLine.publish_paired (hpair : pair.Faithful synchronous) {options : PublishOptions}
    {settings others : Settings}
    (hsame : EndAlike (Publisher.Interchangeable options) (Publisher.ofSettings settings)
      (Publisher.ofSettings others)) :
    (CommandLine.publish settings options).Paired pair Eq (CommandLine.publish others options) := by
  rw [CommandLine.publish, CommandLine.publish, configured_eq, configured_eq]
  generalize Publisher.ofSettings settings = made at hsame ⊢
  generalize Publisher.ofSettings others = otherMade at hsame ⊢
  cases hsame with
  | error failure => exact paired_pure hpair rfl
  | ok hpublisher =>
      apply (Publisher.publish_paired hpair hpublisher).bind hpair
      rintro ⟨result, kept⟩ ⟨otherResult, otherKept⟩ hresult
      cases hresult with
      | error failure => exact paired_pure hpair rfl
      | @ok report otherReport hreport =>
          have hfinished : (Log.Event.deployFinished report.runId.text report.metadata.commit
              report.published).Alike synchronous
              (.deployFinished otherReport.runId.text otherReport.metadata.commit
                otherReport.published) := by
            rw [hreport.metadata_alike.commit_eq, hreport.published_eq]
            exact .deployFinished (fun hsynchronous => by rw [hreport.runId_eq hsynchronous]) _ _
          apply (paired_logged hpair hfinished).bind hpair
          intro _ _ _
          exact paired_pure hpair rfl

/-! ## Silent worlds -/

/-- A world where every command succeeds silently, under clocks that stand still. -/
def Rehearsal.silent (now : Instant) (reading : Duration) (bits : BitVec 128) : Outside Unit where
  run _ state := (⟨.ok "", []⟩, state)
  announce _ state := (.ok (), state)
  wallClock state := (now, state)
  stopwatch state := (reading, state)
  random state := (bits, state)

/-- Silent worlds differ in their clocks alone. -/
theorem Rehearsal.silent_resembles (now other : Instant) (reading otherReading : Duration)
    (bits otherBits : BitVec 128) :
    (silent now reading bits).Resembles False Eq (silent other otherReading otherBits) where
  run _ _ := ⟨⟨rfl, .nil⟩, rfl⟩
  wallClock _ := ⟨False.elim, rfl⟩
  stopwatch _ := ⟨False.elim, rfl⟩
  random _ := ⟨False.elim, rfl⟩

end ArtifactRelease
