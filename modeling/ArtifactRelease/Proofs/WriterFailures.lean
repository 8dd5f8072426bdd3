import ArtifactRelease.Proofs.PairedRuns
import ArtifactRelease.Proofs.WorkflowStream

/-!
# Writers that fail

Workflow commands are for display.  A run whose writer takes them only in part, refuses them, breaks
for good or recovers does the same as one whose writer takes everything, and comes to the same.  It
only warns in the log, once for each command that could not be written.
-/

namespace ArtifactRelease

variable {σ τ μ ν : Type}

/-- A world whose workflow commands go through a writer, on which nothing else depends. -/
def Outside.writing (world : Outside σ) (writer : Workflow.Writer μ) : Outside (σ × μ) where
  run command state :=
    ((world.run command state.1).1, (world.run command state.1).2, state.2)
  announce command state :=
    ((writer.deliver command state.2).1, state.1, (writer.deliver command state.2).2)
  wallClock state := ((world.wallClock state.1).1, (world.wallClock state.1).2, state.2)
  stopwatch state := ((world.stopwatch state.1).1, (world.stopwatch state.1).2, state.2)
  random state := ((world.random state.1).1, (world.random state.1).2, state.2)

/-! ## Warnings -/

/-- The events are alike the expected ones, but for warnings: at most one for each of the workflow
commands, in the order of these. -/
inductive Warned (synchronous : Prop) :
    List Workflow.Command → List Log.Event → List Log.Event → Prop
  | nil : Warned synchronous [] [] []
  | event {commands : List Workflow.Command} {events expected : List Log.Event}
      {event other : Log.Event} (hevent : event.Alike synchronous other)
      (hrest : Warned synchronous commands events expected) :
      Warned synchronous commands (event :: events) (other :: expected)
  | written {commands : List Workflow.Command} {events expected : List Log.Event}
      (command : Workflow.Command) (hrest : Warned synchronous commands events expected) :
      Warned synchronous (command :: commands) events expected
  | lost {commands : List Workflow.Command} {events expected : List Log.Event}
      (command : Workflow.Command) (reason : String)
      (hrest : Warned synchronous commands events expected) :
      Warned synchronous (command :: commands) (.commandNotWritten command reason :: events)
        expected

/-- The commands that were run are alike, the same workflow commands were announced, and the events
are alike but for warnings about these. -/
structure AlikeButWarned (synchronous : Prop) (effects others : List Effect) : Prop where
  commands_alike :
    List.Forall₂ (Child.Command.Alike synchronous) (commandsOf effects) (commandsOf others)
  announced_eq : announcedOf effects = announcedOf others
  events_warned : Warned synchronous (announcedOf effects) (eventsOf effects) (eventsOf others)

variable {synchronous : Prop}

theorem Warned.append {commands later : List Workflow.Command}
    {events expected laterEvents laterExpected : List Log.Event}
    (hfirst : Warned synchronous commands events expected)
    (hlater : Warned synchronous later laterEvents laterExpected) :
    Warned synchronous (commands ++ later) (events ++ laterEvents)
      (expected ++ laterExpected) := by
  induction hfirst with
  | nil => exact hlater
  | event hevent _ ih => exact .event hevent ih
  | written command _ ih => exact .written command ih
  | lost command reason _ ih => exact .lost command reason ih

theorem Warned.of_alike {events expected : List Log.Event}
    (halike : List.Forall₂ (Log.Event.Alike synchronous) events expected) :
    Warned synchronous [] events expected := by
  induction halike with
  | nil => exact .nil
  | cons hevent _ ih => exact .event hevent ih

namespace AlikeButWarned

theorem append {effects later others last : List Effect}
    (hfirst : AlikeButWarned synchronous effects others)
    (hlater : AlikeButWarned synchronous later last) :
    AlikeButWarned synchronous (effects ++ later) (others ++ last) := by
  constructor
  · rw [commandsOf, commandsOf, List.filterMap_append, List.filterMap_append]
    exact List.rel_append hfirst.commands_alike hlater.commands_alike
  · rw [announcedOf_append, announcedOf_append, hfirst.announced_eq, hlater.announced_eq]
  · rw [announcedOf_append, eventsOf, eventsOf, List.filterMap_append, List.filterMap_append]
    exact hfirst.events_warned.append hlater.events_warned

/-- Where nothing is announced there are no warnings. -/
theorem of_quiet {effects others : List Effect}
    (halike : List.Forall₂ (Effect.Alike synchronous) effects others)
    (hquiet : announcedOf effects = []) : AlikeButWarned synchronous effects others := by
  refine ⟨commandsOf_alike halike, announcedOf_alike halike, ?_⟩
  rw [hquiet]
  exact .of_alike (eventsOf_alike halike)

end AlikeButWarned

/-! ## The run with the writer that fails beside the other -/

/-- A run with any writer beside one whose writer takes everything. -/
def Pair.ofWriters (synchronous : Prop) (related : σ → τ → Prop) (first : Outside σ)
    (second : Outside τ) (writer : Workflow.Writer μ) (accepting : Workflow.Writer ν) :
    Pair (σ × μ) (τ × ν) where
  first := first.writing writer
  second := second.writing accepting
  related state counterpart := related state.1 counterpart.1
  corresponds := AlikeButWarned synchronous

theorem Pair.ofWriters_faithful {related : σ → τ → Prop} {first : Outside σ} {second : Outside τ}
    (hresembles : first.Resembles synchronous related second) (writer : Workflow.Writer μ)
    {accepting : Workflow.Writer ν} {taken : ν → List UInt8} (haccepts : accepting.Accepts taken) :
    (ofWriters synchronous related first second writer accepting).Faithful synchronous where
  resembles := {
    run := fun hcommand hrelated => hresembles.run hcommand hrelated
    wallClock := fun hrelated => hresembles.wallClock hrelated
    stopwatch := fun hrelated => hresembles.stopwatch hrelated
    random := fun hrelated => hresembles.random hrelated }
  quiet := AlikeButWarned.of_quiet
  append := AlikeButWarned.append
  emit command := by
    intro state counterpart hrelated
    have htaken : ((second.writing accepting).announce command counterpart).1 = .ok () :=
      (haccepts.deliver command counterpart.2).1
    rw [Plan.perform_emit, Plan.perform_emit]
    refine ⟨rfl, ?_, hrelated⟩
    change AlikeButWarned synchronous
      (command.effects ((first.writing writer).announce command state).1)
      (command.effects ((second.writing accepting).announce command counterpart).1)
    rw [htaken]
    cases ((first.writing writer).announce command state).1 with
    | ok => exact ⟨.nil, rfl, .written command .nil⟩
    | error reason => exact ⟨.nil, rfl, .lost command reason .nil⟩

namespace Publisher

/-- Whatever becomes of the workflow commands of a run, it comes to what it does with a writer that
takes everything: the reports, the commands and the log events of the two runs are alike, but for
warnings, of which there is at most one for each workflow command.  The same holds of an invocation
to publish in any environment. -/
theorem publish_despite_writer {related : σ → τ → Prop} {first : Outside σ} {second : Outside τ}
    (hresembles : first.Resembles synchronous related second) (writer : Workflow.Writer μ)
    {accepting : Workflow.Writer ν} {taken : ν → List UInt8} (haccepts : accepting.Accepts taken)
    {state : σ} {counterpart : τ} (hrelated : related state counterpart) (sink : μ) (kept : ν)
    (options : PublishOptions) :
    (∀ publisher : Publisher,
      let run := (publisher.publish options).perform (first.writing writer) (state, sink)
      let calm :=
        (publisher.publish options).perform (second.writing accepting) (counterpart, kept)
      EndAlike (Report.Alike synchronous) run.value.1 calm.value.1 ∧
        (synchronous → run.value.1 = calm.value.1) ∧
        AlikeButWarned synchronous run.effects calm.effects ∧
        announcedOf run.effects = announcements run.value.1) ∧
    ∀ environment : Environment,
      let invocation := CommandLine.publish environment.settings options
      let run := invocation.perform (first.writing writer) (state, sink)
      let calm := invocation.perform (second.writing accepting) (counterpart, kept)
      run.value = calm.value ∧ AlikeButWarned synchronous run.effects calm.effects := by
  have hpair := Pair.ofWriters_faithful hresembles writer haccepts
  constructor
  · intro publisher run calm
    obtain ⟨hvalue, heffects, -⟩ := publish_paired hpair (.refl options publisher)
      (state, sink) (counterpart, kept) hrelated
    have hannounced : announcedOf run.effects = announcements run.value.1 :=
      publish_announces (Plan.perform_traces _ _ _)
    exact ⟨hvalue, fun hsynchronous => hvalue.eq fun hreport => hreport.eq hsynchronous, heffects,
      hannounced⟩
  · intro environment invocation run calm
    have hsame : EndAlike (Interchangeable options) (ofSettings environment.settings)
        (ofSettings environment.settings) := by
      cases ofSettings environment.settings with
      | error failure => exact .error failure
      | ok publisher => exact .ok (.refl options publisher)
    obtain ⟨hvalue, heffects, -⟩ := CommandLine.publish_paired hpair hsame
      (state, sink) (counterpart, kept) hrelated
    exact ⟨hvalue, heffects⟩

/-- A writer that refuses everything, under clocks of its own. -/
theorem publish_despite_refusal :
    let first := Rehearsal.silent ⟨1700000000, 0⟩ ⟨0, 0⟩ 1
    let second := Rehearsal.silent ⟨1800000000, 0⟩ ⟨7, 0⟩ 2
    let writer := Workflow.Writer.refusing "Broken pipe (os error 32)"
    let publisher := under {} ⟨"ts-artifact-builder", []⟩
    let run := (publisher.publish { build := false }).perform (first.writing writer) ((), [])
    let calm := (publisher.publish { build := false }).perform (second.writing .memory) ((), [])
    run.value.1.isOk ∧ EndAlike (Report.Alike False) run.value.1 calm.value.1 ∧
      AlikeButWarned False run.effects calm.effects := by
  intro first second writer publisher run calm
  obtain ⟨hrun, -⟩ := publish_despite_writer (Rehearsal.silent_resembles _ _ _ _ _ _) writer
    Workflow.Writer.memory_accepts rfl [] [] { build := false }
  obtain ⟨hvalue, -, heffects, -⟩ := hrun publisher
  exact ⟨rfl, hvalue, heffects⟩

end Publisher

end ArtifactRelease
