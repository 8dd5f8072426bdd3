import ArtifactRelease.Proofs.PublishOutcome
import ArtifactRelease.Proofs.RunEffects
import ArtifactRelease.Rehearsal
import Mathlib.Data.List.Forall2

/-!
# The stream of workflow commands

What a run writes for the automation service depends on how it ends and on nothing else.  A
publisher that is called time and again writes one segment for each call, so that every group that
was opened is closed before the next one, and there are as many notices as successful calls.
-/

namespace ArtifactRelease

open ArtifactRelease.Text

/-! ## Writers that take everything -/

namespace Workflow.Writer

variable {τ : Type}

/-- The writer refuses nothing and goes on taking bytes; `taken` are those that it has taken. -/
structure Accepts (writer : Writer τ) (taken : τ → List UInt8) : Prop where
  write : ∀ bytes sink, bytes ≠ [] →
    ∃ count, 0 < count ∧ (writer.write bytes sink).1 = .ok count ∧
      taken (writer.write bytes sink).2 = taken sink ++ bytes.take count
  flush : ∀ sink, (writer.flush sink).1 = .ok () ∧ taken (writer.flush sink).2 = taken sink

variable {writer : Writer τ} {taken : τ → List UInt8}

theorem Accepts.writeAll (haccepts : writer.Accepts taken) {fuel : Nat} {bytes : List UInt8}
    (sink : τ) (hfuel : bytes.length ≤ fuel) :
    (writer.writeAll fuel bytes sink).1 = .ok () ∧
      taken (writer.writeAll fuel bytes sink).2 = taken sink ++ bytes := by
  induction fuel generalizing bytes sink with
  | zero =>
      obtain rfl := List.length_eq_zero_iff.1 (Nat.le_zero.1 hfuel)
      simp [Writer.writeAll]
  | succ fuel ih =>
      cases bytes with
      | nil => simp [Writer.writeAll]
      | cons byte rest =>
          obtain ⟨count, hpositive, hwrite, htaken⟩ := haccepts.write (byte :: rest) sink nofun
          obtain ⟨count, rfl⟩ := Nat.exists_eq_succ_of_ne_zero hpositive.ne'
          rcases hresult : writer.write (byte :: rest) sink with ⟨outcome, after⟩
          rw [hresult] at hwrite htaken
          obtain rfl : outcome = .ok (count + 1) := hwrite
          simp only [Writer.writeAll, hresult]
          have hleft : ((byte :: rest).drop (count + 1)).length ≤ fuel := by
            simp only [List.length_drop, List.length_cons] at hfuel ⊢
            omega
          obtain ⟨hok, hrest⟩ := ih after hleft
          exact ⟨hok, by rw [hrest, htaken, List.append_assoc, List.take_append_drop]⟩

/-- A command is delivered as its line. -/
theorem Accepts.deliver (haccepts : writer.Accepts taken) (command : Command) (sink : τ) :
    (writer.deliver command sink).1 = .ok () ∧
      taken (writer.deliver command sink).2 = taken sink ++ encode command.line := by
  obtain ⟨hok, htaken⟩ := haccepts.writeAll sink (Nat.le_refl (encode command.line).length)
  rcases hresult : writer.writeAll (encode command.line).length (encode command.line) sink with
    ⟨outcome, after⟩
  rw [hresult] at hok htaken
  obtain rfl : outcome = .ok () := hok
  simp only [Writer.deliver, hresult]
  obtain ⟨hflush, hkept⟩ := haccepts.flush after
  exact ⟨hflush, hkept.trans htaken⟩

theorem memory_accepts : memory.Accepts id where
  write bytes sink hbytes := ⟨bytes.length, List.length_pos_iff.2 hbytes, rfl, by simp [memory]⟩
  flush _ := ⟨rfl, rfl⟩

end Workflow.Writer

/-! ## What is written while a plan is performed -/

/-- Workflow commands go through a writer, and nothing else changes the state of that. -/
structure Outside.WritesThrough {σ τ : Type} (outside : Outside σ) (writer : Workflow.Writer τ)
    (sink : σ → τ) : Prop where
  announce : ∀ command state,
    (outside.announce command state).1 = (writer.deliver command (sink state)).1 ∧
      sink (outside.announce command state).2 = (writer.deliver command (sink state)).2
  run : ∀ command state, sink (outside.run command state).2 = sink state
  wallClock : ∀ state, sink (outside.wallClock state).2 = sink state
  stopwatch : ∀ state, sink (outside.stopwatch state).2 = sink state
  random : ∀ state, sink (outside.random state).2 = sink state

theorem Rehearsal.scripted_writesThrough (writer : Workflow.Writer (List UInt8)) :
    (scripted writer).WritesThrough writer Stage.written where
  announce _ _ := ⟨rfl, rfl⟩
  run _ _ := rfl
  wallClock _ := rfl
  stopwatch _ := rfl
  random _ := rfl

section Performance

variable {σ τ α : Type} {outside : Outside σ} {writer : Workflow.Writer τ} {sink : σ → τ}
  {taken : τ → List UInt8}

def streamOf (announced : List Workflow.Command) : List UInt8 :=
  encode (announced.flatMap Workflow.Command.line)

theorem streamOf_append (earlier later : List Workflow.Command) :
    streamOf (earlier ++ later) = streamOf earlier ++ streamOf later := by
  simp [streamOf, encode]

/-- The writer takes the lines of the commands that a plan announces. -/
theorem Plan.perform_taken (hwrites : outside.WritesThrough writer sink)
    (haccepts : writer.Accepts taken) (plan : Plan α) (state : σ) :
    taken (sink (plan.perform outside state).state) =
      taken (sink state) ++ streamOf (announcedOf (plan.perform outside state).effects) := by
  induction plan generalizing state with
  | done value => simp [perform, streamOf, encode]
  | run command next ih =>
      have hquiet := Child.announcedOf_answer_effects (outside.run command state).1 command
      rw [Child.Answer.effects] at hquiet
      simp only [perform, Performance.after, ih, hwrites.run, announcedOf_append, hquiet,
        List.nil_append]
  | announce command next ih =>
      obtain ⟨-, hsink⟩ := hwrites.announce command state
      obtain ⟨-, htaken⟩ := haccepts.deliver command (sink state)
      have hline : streamOf [command] = encode command.line := by simp [streamOf]
      simp only [perform, Performance.after, ih, hsink, htaken, announcedOf_append,
        streamOf_append, announcedOf_cons, Effect.announcement?, Option.toList_some,
        announcedOf_nil, List.append_nil, hline, List.append_assoc]
  | print text next ih => simp [perform, Performance.after, ih, Effect.announcement?]
  | log event next ih => simp [perform, Performance.after, ih, Effect.announcement?]
  | enter span next ih => simp [perform, Performance.after, ih, Effect.announcement?]
  | leave next ih => simp [perform, Performance.after, ih, Effect.announcement?]
  | wallClock next ih => simp [perform, ih, hwrites.wallClock]
  | stopwatch next ih => simp [perform, ih, hwrites.stopwatch]
  | random next ih => simp [perform, ih, hwrites.random]

end Performance

/-! ## What a run announces -/

section Silence

variable {σ : Type} {outside : Outside σ}

theorem admits_unannounced : Admits outside fun effect => effect.announcement? = none where
  answered command state := by
    have hquiet := Child.announcedOf_answer_effects (outside.run command state).1 command
    rwa [announcedOf, List.filterMap_eq_nil_iff] at hquiet
  logged _ _ := rfl

theorem Collector.collect_silent (collector : Collector) : collector.collect.Silent outside :=
  Plan.Only.silent (collector.collect_only admits_unannounced fun _ => rfl)

/-- A build leaves the log group to the run around it. -/
theorem Publisher.build_silent (publisher : Publisher) (options : PublishOptions)
    (metadata : Metadata) (timings : Timings) :
    (publisher.build options metadata timings).Silent outside :=
  Plan.Only.silent (publisher.build_only options admits_unannounced metadata timings)

end Silence

namespace Publisher

variable {σ : Type} {outside : Outside σ} {effects : List Effect} {publisher : Publisher}
  {options : PublishOptions}

/-- The failure of a build is never that of the metadata, which were there before it. -/
theorem build_failure {metadata : Metadata} {result : Except Failure BuildOutcome × Timings}
    {failure : Failure}
    (htrace : (publisher.build options metadata []).Traces outside effects result)
    (hfailure : result.1 = .error failure) (cause : QueryFailure) : failure ≠ .metadata cause := by
  rcases build_traces htrace with ⟨reason, hreason, htaken⟩ | ⟨-, hconcluded⟩
  · obtain rfl := Except.error.inj (hfailure.symm.trans hreason)
    obtain ⟨step, hstep, _, -, rfl⟩ := htaken.exists_error
    obtain ⟨-, location, -, ⟨-, rfl⟩ | ⟨-, operation, rfl⟩⟩ := mem_buildSteps.1 hstep
    · rintro ⟨⟩
    · rintro ⟨⟩
  · rw [hfailure] at hconcluded
    generalize result.2.labels = labels at hconcluded
    cases hconcluded with
    | unplaced hbuild hlocation =>
        rw [BuilderFactory.location?] at hlocation
        split at hlocation <;> cases hlocation
        rintro ⟨⟩
    | unreadable hbuild hlocation hlist hran hvalue =>
        obtain ⟨-, fault, rfl, -⟩ := Builder.parseList_eq_error_iff.1 hvalue
        rintro ⟨⟩

def announcements : Except Failure Report → List Workflow.Command
  | .error (.metadata _) => []
  | .error _ => [.group "build it", .endGroup]
  | .ok _ => [.group "build it", .endGroup, .notice "all done!"]

/-- A call ends in one of three ways. -/
theorem announcements_cases (result : Except Failure Report) :
    (∃ cause, result = .error (.metadata cause) ∧ announcements result = []) ∨
    (∃ failure, result = .error failure ∧ (∀ cause, failure ≠ .metadata cause) ∧
      announcements result = [.group "build it", .endGroup]) ∨
    ∃ report, result = .ok report ∧
      announcements result = [.group "build it", .endGroup, .notice "all done!"] := by
  cases result with
  | ok report => exact .inr (.inr ⟨report, rfl, rfl⟩)
  | error failure =>
      cases failure with
      | metadata cause => exact .inl ⟨cause, rfl, rfl⟩
      | _ =>
          refine .inr (.inl ⟨_, rfl, ?_, rfl⟩)
          rintro _ ⟨⟩

/-- What a run announces is determined by how it ends. -/
theorem publish_announces {result : Except Failure Report × Publisher}
    (htrace : (publisher.publish options).Traces outside effects result) :
    announcedOf effects = announcements result.1 := by
  obtain ⟨asked, collected, later, hcollect, -, -, hannounced, hrest⟩ := publish_traces htrace
  rw [hannounced, Collector.collect_silent _ _ _ hcollect, List.nil_append]
  rcases hrest with ⟨failure, -, rfl, hresult⟩ | ⟨metadata, runId, start, -, hrun⟩
  · rw [hresult]
    rfl
  · obtain ⟨inner, built, timings, hbuild, -, hlater, -, hresult⟩ := runWith_traces rfl hrun
    rw [hlater, build_silent _ _ _ _ _ _ hbuild, List.nil_append, hresult]
    cases hbuilt : built.1 with
    | ok outcome => rfl
    | error failure =>
        rcases announcements_cases (.error failure) with
          ⟨cause, heq, -⟩ | ⟨_, heq, -, hcommands⟩ | ⟨_, heq, -⟩
        · exact absurd (Except.error.inj heq) (build_failure hbuild hbuilt cause)
        · exact hcommands.symm
        · cases heq

/-! ## Many runs -/

/-- Publishes time and again; the metadata of the first call are kept. -/
def publishAll (publisher : Publisher) :
    List PublishOptions → Plan (List (Except Failure Report) × Publisher)
  | [] => return ([], publisher)
  | options :: later => do
    let (result, publisher) ← publisher.publish options
    let (results, publisher) ← publisher.publishAll later
    return (result :: results, publisher)

theorem publishAll_announces {calls : List PublishOptions}
    {result : List (Except Failure Report) × Publisher}
    (htrace : (publisher.publishAll calls).Traces outside effects result) :
    result.1.length = calls.length ∧ announcedOf effects = result.1.flatMap announcements := by
  induction calls generalizing publisher effects result with
  | nil =>
      obtain ⟨rfl, rfl⟩ := Plan.traces_pure.1 htrace
      exact ⟨rfl, rfl⟩
  | cons options later ih =>
      obtain ⟨⟨first, kept⟩, front, _, hfirst, hrest, rfl⟩ := Plan.traces_bind.1 htrace
      obtain ⟨⟨others, last⟩, back, _, hlater, hpure, rfl⟩ := Plan.traces_bind.1 hrest
      obtain ⟨rfl, rfl⟩ := Plan.traces_pure.1 hpure
      obtain ⟨hlength, hback⟩ := ih hlater
      refine ⟨by simp [hlength], ?_⟩
      simp [publish_announces hfirst, hback]

structure IsSegment (result : Except Failure Report) (segment : String) : Prop where
  empty_iff : segment = "" ↔ ∃ cause, result = .error (.metadata cause)
  grouped_iff : segment = "::group::build it\n::endgroup::\n" ↔
    ∃ failure, result = .error failure ∧ ∀ cause, failure ≠ .metadata cause
  noticed_iff : segment = "::group::build it\n::endgroup::\n::notice::all done!\n" ↔
    ∃ report, result = .ok report

def segment (result : Except Failure Report) : String :=
  String.ofList ((announcements result).flatMap Workflow.Command.line)

theorem segment_isSegment (result : Except Failure Report) : IsSegment result (segment result) := by
  rcases announcements_cases result with
    ⟨cause, rfl, hcommands⟩ | ⟨failure, rfl, hother, hcommands⟩ | ⟨report, rfl, hcommands⟩
  · have hsegment : segment (.error (.metadata cause)) = "" := by rw [segment, hcommands]; rfl
    constructor <;> simp [hsegment]
  · have hsegment : segment (.error failure) = "::group::build it\n::endgroup::\n" := by
      rw [segment, hcommands]
      rfl
    constructor <;> simp [hsegment, hother]
  · have hsegment : segment (.ok report) =
        "::group::build it\n::endgroup::\n::notice::all done!\n" := by
      rw [segment, hcommands]
      rfl
    constructor <;> simp [hsegment]

theorem streamOf_announcements (results : List (Except Failure Report)) :
    streamOf (results.flatMap announcements) =
      encode ((results.map segment).flatMap String.toList) := by
  simp [streamOf, segment, List.flatMap_assoc, List.flatMap_map]

/-- Whether a group is open after some commands, as long as none is opened inside another or closed
without having been opened. -/
def groupOpen? : Bool → List Workflow.Command → Option Bool
  | isOpen, [] => some isOpen
  | false, .group _ :: later => groupOpen? true later
  | true, .endGroup :: later => groupOpen? false later
  | isOpen, .notice _ :: later => groupOpen? isOpen later
  | _, _ :: _ => none

theorem groupOpen?_announcements (result : Except Failure Report)
    (later : List Workflow.Command) :
    groupOpen? false (announcements result ++ later) = groupOpen? false later := by
  rcases announcements_cases result with
    ⟨_, -, hcommands⟩ | ⟨_, -, -, hcommands⟩ | ⟨_, -, hcommands⟩ <;>
    rw [hcommands] <;> rfl

theorem groupOpen?_flatMap (results : List (Except Failure Report)) :
    groupOpen? false (results.flatMap announcements) = some false := by
  induction results with
  | nil => rfl
  | cons result later ih => rw [List.flatMap_cons, groupOpen?_announcements, ih]

theorem count_notice (results : List (Except Failure Report)) :
    (results.flatMap announcements).count (.notice "all done!") = results.countP Except.isOk := by
  induction results with
  | nil => rfl
  | cons result later ih =>
      rw [List.flatMap_cons, List.count_append, List.countP_cons, ih, Nat.add_comm]
      congr 1
      rcases announcements_cases result with
        ⟨_, rfl, hcommands⟩ | ⟨_, rfl, -, hcommands⟩ | ⟨_, rfl, hcommands⟩ <;>
        rw [hcommands] <;> rfl

/-- A writer that takes everything is left with one segment for each call, by how that ended.  No
group is opened inside another, all are closed in the end, and each call that succeeds adds one
notice. -/
theorem stream_of_segments {σ τ : Type} {outside : Outside σ} {writer : Workflow.Writer τ}
    {sink : σ → τ} {taken : τ → List UInt8} (hwrites : outside.WritesThrough writer sink)
    (haccepts : writer.Accepts taken) (publisher : Publisher) (calls : List PublishOptions)
    (state : σ) :
    let performance := (publisher.publishAll calls).perform outside state
    let results := performance.value.1
    let announced := announcedOf performance.effects
    results.length = calls.length ∧
      (∃ segments, List.Forall₂ IsSegment results segments ∧
        taken (sink performance.state) =
          taken (sink state) ++ encode (segments.flatMap String.toList)) ∧
      taken (sink performance.state) = taken (sink state) ++ streamOf announced ∧
      groupOpen? false announced = some false ∧
      announced.count (.notice "all done!") = results.countP Except.isOk := by
  intro performance results announced
  obtain ⟨hlength, hannounced⟩ :=
    publishAll_announces (Plan.perform_traces outside (publisher.publishAll calls) state)
  have htaken := Plan.perform_taken hwrites haccepts (publisher.publishAll calls) state
  have hannounced : announced = results.flatMap announcements := hannounced
  refine ⟨hlength, ⟨results.map segment, ?_, ?_⟩, htaken, ?_, ?_⟩
  · rw [List.forall₂_map_right_iff, List.forall₂_same]
    exact fun result _ => segment_isSegment result
  · rw [htaken, ← streamOf_announcements]
    exact congrArg (taken (sink state) ++ streamOf ·) hannounced
  · rw [hannounced, groupOpen?_flatMap]
  · rw [hannounced, count_notice]

/-- Three calls in a rehearsal without a bucket: only the one that does not build succeeds. -/
theorem stream_without_bucket :
    let publisher := under {} ⟨"ts-artifact-builder", []⟩
    let calls : List PublishOptions := [{}, { build := false }, { publish := true }]
    let performance :=
      (publisher.publishAll calls).perform (Rehearsal.scripted .memory) ⟨[], []⟩
    performance.value.1.map Except.isOk = [false, true, false] ∧
      ∃ segments, List.Forall₂ IsSegment performance.value.1 segments ∧
        performance.state.written = encode (segments.flatMap String.toList) := by
  intro publisher calls performance
  obtain ⟨-, hsegments, -⟩ := stream_of_segments (Rehearsal.scripted_writesThrough .memory)
    Workflow.Writer.memory_accepts publisher calls ⟨[], []⟩
  exact ⟨rfl, hsegments⟩

end Publisher

end ArtifactRelease
