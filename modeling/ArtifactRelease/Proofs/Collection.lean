import ArtifactRelease.Collector
import ArtifactRelease.Proofs.Traces

/-!
# What a collector asks for

A collector that computes metadata puts at most two questions to version control: for the commit,
unless it is given, and then for the tags.  The dialogue between the two settles what is recorded,
up to the time of day.
-/

namespace ArtifactRelease

open ArtifactRelease.Text

variable {σ : Type} {outside : Outside σ} {effects : List Effect}

/-- The wall clock of the world outside can show an instant. -/
def Outside.Shows (outside : Outside σ) (now : Instant) : Prop :=
  ∃ state, now = (outside.wallClock state).1

/-- `git rev-parse --short HEAD` in the current directory. -/
def headQuestion : Child.Command :=
  { program := "git", arguments := ["rev-parse", "--short", "HEAD"], captures := true }

/-- `git tag --points-at HEAD` in the current directory. -/
def tagsQuestion : Child.Command :=
  { program := "git", arguments := ["tag", "--points-at", "HEAD"], captures := true }

namespace VersionControl

variable {versionControl : VersionControl}

/-- A question is one command, and its failure names the question. -/
theorem ask_traces {query : Query} {result : Except QueryFailure String}
    (htrace : (versionControl.ask query).Traces outside effects result) :
    ∃ outcome, exchangesOf effects = [(versionControl.command query, outcome)] ∧
      result = outcome.mapError (QueryFailure.mk query) := by
  simp only [ask, Plan.traces_bind, Plan.traces_logged, Plan.traces_command] at htrace
  obtain ⟨-, _, _, rfl, ⟨outcome, _, later, ⟨state, rfl, houtcome⟩, hrest, rfl⟩, rfl⟩ := htrace
  refine ⟨outcome, ?_⟩
  cases outcome with
  | ok output =>
      obtain ⟨rfl, rfl⟩ := Plan.traces_pure.1 hrest
      exact ⟨by simp [← houtcome, Effect.exchange?], rfl⟩
  | error cause =>
      obtain ⟨rfl, rfl⟩ := Plan.traces_pure.1 hrest
      exact ⟨by simp [← houtcome, Effect.exchange?], rfl⟩

/-- An answer that is read in some way is one command too. -/
theorem ask_map_traces {α : Type} {query : Query} {read : String → α}
    {result : Except QueryFailure α}
    (htrace : (versionControl.ask query >>= fun answer => pure (answer.map read)).Traces outside
      effects result) :
    ∃ outcome, exchangesOf effects = [(versionControl.command query, outcome)] ∧
      result = (outcome.mapError (QueryFailure.mk query)).map read := by
  obtain ⟨answer, asked, later, hask, hrest, rfl⟩ := Plan.traces_bind.1 htrace
  obtain ⟨outcome, hasked, rfl⟩ := ask_traces hask
  obtain ⟨rfl, rfl⟩ := Plan.traces_pure.1 hrest
  exact ⟨outcome, by simp [hasked], rfl⟩

end VersionControl

namespace Collector

variable {collector : Collector}

theorem get?_eq_some_iff {metadata : Metadata} :
    collector.get? = some metadata ↔ collector.collected = some (.ok metadata) := by
  rw [get?]
  split
  · next found hcollected => simp [hcollected]
  · next hcollected => simpa using hcollected metadata

def record (collector : Collector) (commit tagsOutput : String) (now : Instant) : Metadata :=
  { commit
    createdAt := now.timestamp
    runRecord := collector.actionRun.map RunRecord.ofActionRun
    tags := some (splitTags tagsOutput) }

/-- The exchanges after which the commit to record is known. -/
inductive KnowsCommit (collector : Collector) : List Exchange → String → Prop
  | given {commit : String} (hgiven : collector.givenCommit = some commit) :
      KnowsCommit collector [] commit
  | asked (hgiven : collector.givenCommit = none) (output : String) :
      KnowsCommit collector [(collector.versionControl.command .head, .ok output)]
        (trimmed output)

/-- All that can pass between a collector and version control, and what comes of it, when the clock
shows one of the instants `shows`. -/
inductive Dialogue (collector : Collector) (shows : Instant → Prop) :
    List Exchange → Except QueryFailure Metadata → Prop
  | headFailed (hgiven : collector.givenCommit = none) (cause : Child.Failure) :
      Dialogue collector shows [(collector.versionControl.command .head, .error cause)]
        (.error ⟨.head, cause⟩)
  | tagsFailed {ran : List Exchange} {commit : String}
      (hcommit : collector.KnowsCommit ran commit) (cause : Child.Failure) :
      Dialogue collector shows
        (ran ++ [(collector.versionControl.command .tagsAtHead, .error cause)])
        (.error ⟨.tagsAtHead, cause⟩)
  | collected {ran : List Exchange} {commit : String}
      (hcommit : collector.KnowsCommit ran commit) (output : String) {now : Instant}
      (hnow : shows now) :
      Dialogue collector shows
        (ran ++ [(collector.versionControl.command .tagsAtHead, .ok output)])
        (.ok (collector.record commit output now))

/-- Asking for the commit fails, or the commit is known. -/
theorem commit_traces {result : Except QueryFailure String}
    (htrace : collector.commit.Traces outside effects result) :
    (∃ cause, collector.givenCommit = none ∧ result = .error ⟨.head, cause⟩ ∧
      exchangesOf effects = [(collector.versionControl.command .head, .error cause)]) ∨
    ∃ commit, result = .ok commit ∧ collector.KnowsCommit (exchangesOf effects) commit := by
  rw [commit] at htrace
  cases hgiven : collector.givenCommit with
  | some commit =>
      simp only [hgiven, Plan.traces_bind, Plan.traces_logged, Plan.traces_pure] at htrace
      obtain ⟨-, _, _, rfl, ⟨rfl, rfl⟩, rfl⟩ := htrace
      exact .inr ⟨commit, rfl, .given hgiven⟩
  | none =>
      simp only [hgiven] at htrace
      obtain ⟨outcome, hasked, rfl⟩ := VersionControl.ask_map_traces htrace
      rw [hasked]
      cases outcome with
      | error cause => exact .inl ⟨cause, rfl, rfl, rfl⟩
      | ok output => exact .inr ⟨trimmed output, rfl, .asked hgiven output⟩

/-- Every computation is a dialogue. -/
theorem compute_traces {outcome : Except QueryFailure Metadata}
    (htrace : collector.compute.Traces outside effects outcome) :
    collector.Dialogue outside.Shows (exchangesOf effects) outcome := by
  obtain ⟨first, asked, later, hcommit, hrest, rfl⟩ := Plan.traces_bind.1 htrace
  rw [exchangesOf_append]
  rcases commit_traces hcommit with ⟨cause, hgiven, rfl, hasked⟩ | ⟨commit, rfl, hknown⟩
  · obtain ⟨rfl, rfl⟩ := Plan.traces_pure.1 hrest
    rw [hasked]
    exact .headFailed hgiven cause
  · obtain ⟨second, tagsAsked, _, htags, hrest, rfl⟩ := Plan.traces_bind.1 hrest
    obtain ⟨tagsOutcome, htagsAsked, rfl⟩ := VersionControl.ask_map_traces htags
    cases tagsOutcome with
    | error cause =>
        obtain ⟨rfl, rfl⟩ := Plan.traces_pure.1 hrest
        simpa [htagsAsked] using .tagsFailed hknown cause
    | ok output =>
        obtain ⟨_, hfound, rfl⟩ := Plan.traces_logged_bind.1 hrest
        obtain ⟨now, _, _, hclock, hpure, rfl⟩ := Plan.traces_bind.1 hfound
        obtain ⟨state, rfl, hnow⟩ := Plan.traces_now.1 hclock
        obtain ⟨rfl, rfl⟩ := Plan.traces_pure.1 hpure
        simpa [htagsAsked, Effect.exchange?] using .collected hknown output ⟨state, hnow⟩

/-- What is held is the answer to every request. -/
theorem collect_of_held {outcome : Except QueryFailure Metadata}
    (hheld : collector.collected = some outcome) :
    collector.collect = pure (outcome, collector) := by
  rw [collect, hheld]

/-- The first request is a dialogue, every later one gives what came of the first; the outcome is
kept in any case. -/
theorem collect_traces {result : Except QueryFailure Metadata × Collector}
    (htrace : collector.collect.Traces outside effects result) :
    result.2 = { collector with collected := some result.1 } ∧
      match collector.collected with
      | some outcome => effects = [] ∧ result.1 = outcome
      | none => collector.Dialogue outside.Shows (exchangesOf effects) result.1 := by
  rw [collect] at htrace
  cases hcollected : collector.collected with
  | some outcome =>
      simp only [hcollected] at htrace
      obtain ⟨rfl, rfl⟩ := Plan.traces_pure.1 htrace
      exact ⟨by rw [← hcollected], rfl, rfl⟩
  | none =>
      simp only [hcollected] at htrace
      obtain ⟨outcome, asked, later, hcompute, hrest, rfl⟩ := Plan.traces_bind.1 htrace
      obtain ⟨rfl, rfl⟩ := Plan.traces_pure.1 hrest
      rw [List.append_nil]
      exact ⟨rfl, compute_traces hcompute⟩

/-- Whatever a request came to is held behind it. -/
theorem held_of_traces {result : Except QueryFailure Metadata × Collector}
    (htrace : collector.collect.Traces outside effects result) :
    result.2.collected = some result.1 := by
  rw [(collect_traces htrace).1]

/-! ## Dialogues -/

def questions (collector : Collector) : List Child.Command :=
  (if collector.givenCommit.isSome then [] else [collector.versionControl.command .head])
    ++ [collector.versionControl.command .tagsAtHead]

variable {shows : Instant → Prop} {ran : List Exchange}
  {outcome : Except QueryFailure Metadata}

theorem KnowsCommit.questions {commit : String} (hcommit : collector.KnowsCommit ran commit) :
    collector.questions =
      ran.map Prod.fst ++ [collector.versionControl.command .tagsAtHead] := by
  cases hcommit with
  | given hgiven => simp [Collector.questions, hgiven]
  | asked hgiven output => simp [Collector.questions, hgiven]

/-- Nothing is asked that is not among the questions, and nothing out of order. -/
theorem Dialogue.prefix_questions (hdialogue : collector.Dialogue shows ran outcome) :
    ran.map Prod.fst <+: collector.questions := by
  cases hdialogue with
  | headFailed hgiven cause => simp [questions, hgiven]
  | tagsFailed hcommit cause => simp [hcommit.questions]
  | collected hcommit output hnow => simp [hcommit.questions]

/-- A failure is that of the last command, and all commands before it succeeded. -/
theorem Dialogue.failure {failure : QueryFailure}
    (hdialogue : collector.Dialogue shows ran (.error failure)) :
    ∃ earlier, ran =
        earlier ++ [(collector.versionControl.command failure.query, .error failure.cause)] ∧
      ∀ exchange ∈ earlier, exchange.2.isOk := by
  cases hdialogue with
  | headFailed hgiven cause => exact ⟨[], rfl, by simp⟩
  | @tagsFailed earlier commit hcommit cause =>
      refine ⟨earlier, rfl, ?_⟩
      cases hcommit <;> simp [Except.isOk, Except.toBool]

/-- A collector with settings of its own asks in the current directory. -/
theorem questions_ofSettings (settings : Settings) :
    (ofSettings settings).questions =
      (if settings.commit.isSome then [] else [headQuestion]) ++ [tagsQuestion] := rfl

theorem nodup_questions (collector : Collector) : collector.questions.Nodup := by
  cases hgiven : collector.givenCommit with
  | some commit => simp [questions, hgiven]
  | none => simp [questions, hgiven, VersionControl.command, Query.arguments]

theorem head_ne_tagsAtHead (versionControl : VersionControl) :
    versionControl.command .head ≠ versionControl.command .tagsAtHead := by
  simp [VersionControl.command, Query.arguments]

/-- The question for the tags comes right behind what it takes to know the commit. -/
theorem KnowsCommit.eq_of_tags {commit : String} {answers later : List Exchange}
    {answer last : Child.Outcome} (hcommit : collector.KnowsCommit ran commit)
    (hran : answers ++ (collector.versionControl.command .tagsAtHead, answer) :: later =
      ran ++ [(collector.versionControl.command .tagsAtHead, last)]) : answers = ran := by
  cases hcommit with
  | given =>
      simp only [List.nil_append, List.append_eq_singleton_iff, List.cons_ne_nil, and_false,
        or_false] at hran
      exact hran.1
  | asked hgiven output =>
      rcases answers with _ | ⟨first, _ | ⟨second, rest⟩⟩
      · simp [Ne.symm (head_ne_tagsAtHead _)] at hran
      · simp only [List.cons_append, List.nil_append, List.cons.injEq] at hran
        rw [hran.1]
      · simp at hran

/-- The tags are asked for when the commit is known. -/
theorem Dialogue.knowsCommit {answers later : List Exchange} {answer : Child.Outcome}
    (hdialogue : collector.Dialogue shows
      (answers ++ (collector.versionControl.command .tagsAtHead, answer) :: later) outcome) :
    ∃ commit, collector.KnowsCommit answers commit := by
  generalize hran : answers ++ _ :: later = ran at hdialogue
  cases hdialogue with
  | headFailed hgiven cause =>
      have hcommands := congrArg (List.map Prod.fst) hran
      have htags : collector.versionControl.command .tagsAtHead ∈
          [collector.versionControl.command .head] := by
        simp only [List.map_cons, List.map_nil] at hcommands
        simp [← hcommands]
      exact absurd (List.mem_singleton.1 htags).symm (head_ne_tagsAtHead _)
  | tagsFailed hcommit cause => exact ⟨_, hcommit.eq_of_tags hran ▸ hcommit⟩
  | collected hcommit output hnow => exact ⟨_, hcommit.eq_of_tags hran ▸ hcommit⟩

end Collector

end ArtifactRelease
