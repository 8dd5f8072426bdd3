import ArtifactRelease.Proofs.Traces
import ArtifactRelease.Publisher
import Mathlib.Data.List.Forall2

/-!
# Runs that differ in time only

No two runs see the same clocks or get the same identifier.  What may differ for that reason is said
here, for everything that a run makes and does: the time in the metadata, and with it the
configuration, the command that is given the configuration, and the log events that show these; the
durations that were measured; and the identifier itself.  Whether the clocks agree after all is a
parameter `synchronous`, and if they do then what is alike is equal.
-/

namespace ArtifactRelease

/-! ## What is recorded -/

structure Metadata.Alike (synchronous : Prop) (first second : Metadata) : Prop where
  commit_eq : first.commit = second.commit
  createdAt_eq : synchronous → first.createdAt = second.createdAt
  runRecord_eq : first.runRecord = second.runRecord
  tags_eq : first.tags = second.tags

structure BuildConfig.Alike (synchronous : Prop) (first second : BuildConfig) : Prop where
  metadata_alike : first.metadata.Alike synchronous second.metadata
  rest_eq : { first with metadata := second.metadata } = second

structure Timings.Alike (synchronous : Prop) (first second : Timings) : Prop where
  labels_eq : first.labels = second.labels
  durations_eq : synchronous → first = second

/-- Reports differ in the time and in what is measured, and in the identifier of the run. -/
structure Report.Alike (synchronous : Prop) (first second : Report) : Prop where
  runId_eq : synchronous → first.runId = second.runId
  metadata_alike : first.metadata.Alike synchronous second.metadata
  config_alike : first.config.Alike synchronous second.config
  location_eq : first.location = second.location
  published_eq : first.published = second.published
  artifactList_eq : first.artifactList = second.artifactList
  timings_alike : first.timings.Alike synchronous second.timings

/-- Both failed for the same reason, or both succeeded with values that are alike. -/
inductive EndAlike {ε α β : Type} (alike : α → β → Prop) : Except ε α → Except ε β → Prop
  | error (failure : ε) : EndAlike alike (.error failure) (.error failure)
  | ok {value : α} {other : β} (halike : alike value other) : EndAlike alike (.ok value) (.ok other)

/-! ## What is done -/

inductive Child.Command.Alike (synchronous : Prop) : Child.Command → Child.Command → Prop
  | same (command : Child.Command) : Alike synchronous command command
  | configured (builder : Builder) {first second : BuildConfig}
      (hconfig : first.Alike synchronous second) :
      Alike synchronous (builder.publishCommand first) (builder.publishCommand second)

inductive Log.Event.Alike (synchronous : Prop) : Log.Event → Log.Event → Prop
  | same (event : Log.Event) : Alike synchronous event event
  | codeMeta {first second : Metadata} (hmetadata : first.Alike synchronous second) :
      Alike synchronous (.codeMeta first) (.codeMeta second)
  | buildConfig {first second : BuildConfig} (hconfig : first.Alike synchronous second) :
      Alike synchronous (.buildConfig first) (.buildConfig second)
  | timing (label : String) {first second : Duration} (hduration : synchronous → first = second) :
      Alike synchronous (.timing label first) (.timing label second)
  | spawning {first second : Child.Command} (hcommand : first.Alike synchronous second) :
      Alike synchronous (.spawning first) (.spawning second)
  | deployFinished {first second : String} (hrunId : synchronous → first = second)
      (commit : String) (published : Bool) :
      Alike synchronous (.deployFinished first commit published)
        (.deployFinished second commit published)

structure Child.Answer.Alike (synchronous : Prop) (first second : Child.Answer) : Prop where
  outcome_eq : first.outcome = second.outcome
  logged_alike : List.Forall₂ (Log.Event.Alike synchronous) first.logged second.logged

/-- Effects are of the same kind; all that a span shows is the identifier of the run. -/
inductive Effect.Alike (synchronous : Prop) : Effect → Effect → Prop
  | ran {first second : Child.Command} (hcommand : first.Alike synchronous second)
      (outcome : Child.Outcome) : Alike synchronous (.ran first outcome) (.ran second outcome)
  | announced (command : Workflow.Command) (delivery : Except String Unit) :
      Alike synchronous (.announced command delivery) (.announced command delivery)
  | printed (text : String) : Alike synchronous (.printed text) (.printed text)
  | logged {first second : Log.Event} (hevent : first.Alike synchronous second) :
      Alike synchronous (.logged first) (.logged second)
  | entered {first second : Log.Span} (hspan : synchronous → first = second) :
      Alike synchronous (.entered first) (.entered second)
  | left : Alike synchronous .left .left

variable {synchronous : Prop}

theorem Metadata.Alike.refl (metadata : Metadata) : metadata.Alike synchronous metadata :=
  ⟨rfl, fun _ => rfl, rfl, rfl⟩

theorem Timings.Alike.refl (timings : Timings) : timings.Alike synchronous timings :=
  ⟨rfl, fun _ => rfl⟩

/-! ## Clocks that agree -/

theorem Metadata.Alike.eq {first second : Metadata} (halike : first.Alike synchronous second)
    (hsynchronous : synchronous) : first = second := by
  cases first
  cases second
  obtain ⟨hcommit, hcreatedAt, hrunRecord, htags⟩ := halike
  simp_all

theorem BuildConfig.Alike.eq {first second : BuildConfig} (halike : first.Alike synchronous second)
    (hsynchronous : synchronous) : first = second := by
  rw [← halike.rest_eq, ← halike.metadata_alike.eq hsynchronous]

theorem Report.Alike.eq {first second : Report} (halike : first.Alike synchronous second)
    (hsynchronous : synchronous) : first = second := by
  cases first
  cases second
  obtain ⟨hrunId, hmetadata, hconfig, hlocation, hpublished, hlist, htimings⟩ := halike
  have hmetadata := hmetadata.eq hsynchronous
  have hconfig := hconfig.eq hsynchronous
  have htimings := htimings.durations_eq hsynchronous
  simp_all

theorem EndAlike.eq {ε α : Type} {alike : α → α → Prop} {result other : Except ε α}
    (hends : EndAlike alike result other)
    (heq : ∀ {value other}, alike value other → value = other) :
    result = other := by
  cases hends with
  | error failure => rfl
  | ok halike => rw [heq halike]

theorem Child.Command.Alike.eq {first second : Child.Command}
    (halike : first.Alike synchronous second) (hsynchronous : synchronous) : first = second := by
  cases halike with
  | same command => rfl
  | configured builder hconfig => rw [hconfig.eq hsynchronous]

theorem Log.Event.Alike.eq {first second : Log.Event} (halike : first.Alike synchronous second)
    (hsynchronous : synchronous) : first = second := by
  cases halike with
  | same event => rfl
  | codeMeta hmetadata => rw [hmetadata.eq hsynchronous]
  | buildConfig hconfig => rw [hconfig.eq hsynchronous]
  | timing label hduration => rw [hduration hsynchronous]
  | spawning hcommand => rw [hcommand.eq hsynchronous]
  | deployFinished hrunId commit published => rw [hrunId hsynchronous]

theorem Effect.Alike.eq {first second : Effect} (halike : first.Alike synchronous second)
    (hsynchronous : synchronous) : first = second := by
  cases halike with
  | ran hcommand outcome => rw [hcommand.eq hsynchronous]
  | announced command delivery => rfl
  | printed text => rfl
  | logged hevent => rw [hevent.eq hsynchronous]
  | entered hspan => rw [hspan hsynchronous]
  | left => rfl

theorem effects_eq_of_alike {effects others : List Effect}
    (halike : List.Forall₂ (Effect.Alike synchronous) effects others)
    (hsynchronous : synchronous) : effects = others := by
  rw [← List.forall₂_eq_eq_eq]
  exact halike.imp fun _ _ heffect => heffect.eq hsynchronous

/-! ## Views of alike effects -/

variable {effects others : List Effect}

theorem commandsOf_alike (halike : List.Forall₂ (Effect.Alike synchronous) effects others) :
    List.Forall₂ (Child.Command.Alike synchronous) (commandsOf effects) (commandsOf others) := by
  apply List.rel_filterMap ?_ halike
  intro first second heffect
  cases heffect with
  | ran hcommand outcome => exact .some hcommand
  | _ => exact .none

theorem eventsOf_alike (halike : List.Forall₂ (Effect.Alike synchronous) effects others) :
    List.Forall₂ (Log.Event.Alike synchronous) (eventsOf effects) (eventsOf others) := by
  apply List.rel_filterMap ?_ halike
  intro first second heffect
  cases heffect with
  | logged hevent => exact .some hevent
  | _ => exact .none

theorem announcedOf_alike (halike : List.Forall₂ (Effect.Alike synchronous) effects others) :
    announcedOf effects = announcedOf others := by
  rw [← List.forall₂_eq_eq_eq]
  apply List.rel_filterMap ?_ halike
  intro first second heffect
  cases heffect with
  | announced command delivery => exact .some rfl
  | _ => exact .none

theorem Child.Answer.Alike.effects_alike {first second : Child.Answer}
    (halike : first.Alike synchronous second) {asked other : Child.Command}
    (hcommand : asked.Alike synchronous other) :
    List.Forall₂ (Effect.Alike synchronous) (first.effects asked) (second.effects other) := by
  rw [Child.Answer.effects, Child.Answer.effects, halike.outcome_eq]
  refine .cons (.ran hcommand second.outcome) ?_
  rw [List.forall₂_map_left_iff, List.forall₂_map_right_iff]
  exact halike.logged_alike.imp fun _ _ hevent => .logged hevent

end ArtifactRelease
