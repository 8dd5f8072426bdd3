import ArtifactRelease.Proofs.Collection
import Mathlib.Data.List.Nodup
import Mathlib.Logic.Function.Basic

/-!
# Callers that share a collector

Any number of callers may use one collector at the same time.  The outcome is kept in a cell that
lets one caller compute at a time; the others wait until there is an outcome and then return it.
The system of the collector and its callers takes one step of one caller after another, in any
order, and version control may answer each question as it likes.

The invariant speaks of the caller that computes: whatever its plan still comes to, the answers so
far and those to come are a dialogue of the collector.  When the plan is done, the dialogue is
over and its outcome is the one that is stored.
-/

namespace ArtifactRelease

/-! ## A world that can answer anything -/

/-- One answer to each request. -/
structure Answers where
  answer : Child.Answer
  delivery : Except String Unit
  instant : Instant
  reading : Duration
  bits : BitVec 128

/-- The world whose state is what it answers. -/
def anything : Outside Answers where
  run _ answers := (answers.answer, answers)
  announce _ answers := (answers.delivery, answers)
  wallClock answers := (answers.instant, answers)
  stopwatch answers := (answers.reading, answers)
  random answers := (answers.bits, answers)

/-- Answers among which that to a command is `outcome`. -/
def Answers.ofOutcome (outcome : Child.Outcome) : Answers :=
  ⟨⟨outcome, []⟩, .ok (), ⟨0, 0⟩, ⟨0, 0⟩, 0⟩

/-- A request other than a command can be answered there as it is answered anywhere. -/
theorem Plan.Advances.in_anything {α σ : Type} {outside : Outside σ} {plan rest : Plan α}
    {effects : List Effect} (hfirst : plan.Advances outside effects rest)
    (hquiet : exchangesOf effects = []) : plan.Advances anything effects rest := by
  cases hfirst with
  | run command next state => simp at hquiet
  | announce command next state =>
      exact .announce command next
        { Answers.ofOutcome (.ok "") with delivery := (outside.announce command state).1 }
  | print text => exact .print text _
  | log event => exact .log event _
  | enter span => exact .enter span _
  | leave => exact .leave _
  | wallClock next state =>
      exact .wallClock next
        { Answers.ofOutcome (.ok "") with instant := (outside.wallClock state).1 }
  | stopwatch next state =>
      exact .stopwatch next
        { Answers.ofOutcome (.ok "") with reading := (outside.stopwatch state).1 }
  | random next state =>
      exact .random next { Answers.ofOutcome (.ok "") with bits := (outside.random state).1 }

namespace SharedCollector

/-! ## The system -/

inductive Phase where
  | idle
  | waiting
  /-- Computing, with this plan left. -/
  | working (plan : Plan (Except QueryFailure Metadata))
  /-- Computing, with a command whose outcome is awaited. -/
  | asking (command : Child.Command)
      (next : Child.Outcome → Plan (Except QueryFailure Metadata))
  | returned (result : Except Failure Metadata)
  | got (metadata : Option Metadata)

/-- A collector and its callers. -/
structure System (ι : Type) where
  collector : Collector
  /-- The caller that computes. -/
  initializer : Option ι := none
  phase : ι → Phase := fun _ => .idle

inductive Event (ι : Type) where
  | called (caller : ι)
  | began (caller : ι)
  | issued (caller : ι) (command : Child.Command)
  | answered (caller : ι) (command : Child.Command) (outcome : Child.Outcome)
  | advanced (caller : ι)
  | stored (caller : ι)
  | returned (caller : ι)
  | got (caller : ι) (metadata : Option Metadata)

variable {ι : Type}

namespace Event

def command? : Event ι → Option Child.Command
  | issued _ command => some command
  | _ => none

def exchange? : Event ι → Option Exchange
  | answered _ command outcome => some (command, outcome)
  | _ => none

end Event

def issuedIn (history : List (Event ι)) : List Child.Command :=
  history.filterMap Event.command?

def answersIn (history : List (Event ι)) : List Exchange :=
  history.filterMap Event.exchange?

@[simp]
theorem issuedIn_cons (event : Event ι) (history : List (Event ι)) :
    issuedIn (event :: history) = event.command?.toList ++ issuedIn history := by
  cases h : event.command? <;> simp [issuedIn, h]

@[simp]
theorem answersIn_cons (event : Event ι) (history : List (Event ι)) :
    answersIn (event :: history) = event.exchange?.toList ++ answersIn history := by
  cases h : event.exchange? <;> simp [answersIn, h]

@[simp]
theorem issuedIn_append (history later : List (Event ι)) :
    issuedIn (history ++ later) = issuedIn history ++ issuedIn later :=
  List.filterMap_append

@[simp]
theorem answersIn_append (history later : List (Event ι)) :
    answersIn (history ++ later) = answersIn history ++ answersIn later :=
  List.filterMap_append

@[simp]
theorem issuedIn_nil : issuedIn ([] : List (Event ι)) = [] := rfl

@[simp]
theorem answersIn_nil : answersIn ([] : List (Event ι)) = [] := rfl

/-- A collector that has not been used yet, and its callers. -/
def System.fresh (settings : Settings) : System ι :=
  { collector := Collector.ofSettings settings }

variable [DecidableEq ι]

def System.move (s : System ι) (caller : ι) (phase : Phase) : System ι :=
  { s with phase := Function.update s.phase caller phase }

@[simp]
theorem System.move_phase_self (s : System ι) (caller : ι) (phase : Phase) :
    (s.move caller phase).phase caller = phase := by
  simp [System.move]

theorem System.move_phase_of_ne (s : System ι) {caller other : ι} (phase : Phase)
    (hother : other ≠ caller) : (s.move caller phase).phase other = s.phase other := by
  simp [System.move, hother]

def System.begin (s : System ι) (caller : ι) : System ι :=
  { s.move caller (.working s.collector.compute) with initializer := some caller }

def System.store (s : System ι) (caller : ι) (outcome : Except QueryFailure Metadata) :
    System ι :=
  { s.move caller .waiting with
    initializer := none
    collector := { s.collector with collected := some outcome } }

/-- One step of one caller.  A caller begins to compute only while there is no outcome and nobody
else computes, and returns only what is stored. -/
inductive Step (s : System ι) : Event ι → System ι → Prop
  | call {caller : ι} (hphase : s.phase caller = .idle) :
      Step s (.called caller) (s.move caller .waiting)
  | begin {caller : ι} (hphase : s.phase caller = .waiting)
      (hcell : s.collector.collected = none) (hfree : s.initializer = none) :
      Step s (.began caller) (s.begin caller)
  | issue {caller : ι} {command : Child.Command}
      {next : Child.Outcome → Plan (Except QueryFailure Metadata)}
      (hphase : s.phase caller = .working (.run command next)) :
      Step s (.issued caller command) (s.move caller (.asking command next))
  | answer {caller : ι} {command : Child.Command}
      {next : Child.Outcome → Plan (Except QueryFailure Metadata)}
      (hphase : s.phase caller = .asking command next) (outcome : Child.Outcome) :
      Step s (.answered caller command outcome) (s.move caller (.working (next outcome)))
  | advance {caller : ι} {plan rest : Plan (Except QueryFailure Metadata)}
      {effects : List Effect} (hphase : s.phase caller = .working plan)
      (hfirst : plan.Advances anything effects rest) (hquiet : exchangesOf effects = []) :
      Step s (.advanced caller) (s.move caller (.working rest))
  | store {caller : ι} {outcome : Except QueryFailure Metadata}
      (hphase : s.phase caller = .working (.done outcome)) :
      Step s (.stored caller) (s.store caller outcome)
  | finish {caller : ι} {outcome : Except QueryFailure Metadata}
      (hphase : s.phase caller = .waiting) (hcell : s.collector.collected = some outcome) :
      Step s (.returned caller)
        (s.move caller (.returned (outcome.mapError Failure.metadata)))
  | get {caller : ι} (hphase : s.phase caller = .idle) :
      Step s (.got caller s.collector.get?) (s.move caller (.got s.collector.get?))

/-- Steps one after another, with what was done in them. -/
inductive Run (s : System ι) : List (Event ι) → System ι → Prop
  | refl : Run s [] s
  | snoc {history : List (Event ι)} {event : Event ι} {t u : System ι}
      (hrun : Run s history t) (hstep : Step t event u) : Run s (history ++ [event]) u

/-! ## The invariant -/

/-- What the phase of the caller that computes has to do with the history: every answered command
was issued before, at most one more is on its way, and whatever the plan still comes to completes
the answers to a dialogue. -/
def Underway (collector : Collector) (history : List (Event ι)) : Phase → Prop
  | .working plan =>
    issuedIn history = (answersIn history).map Prod.fst ∧
      ∀ effects outcome, plan.Traces anything effects outcome →
        collector.Dialogue anything.Shows (answersIn history ++ exchangesOf effects) outcome
  | .asking command next =>
    issuedIn history = (answersIn history).map Prod.fst ++ [command] ∧
      ∀ answer effects outcome, (next answer).Traces anything effects outcome →
        collector.Dialogue anything.Shows
          (answersIn history ++ (command, answer) :: exchangesOf effects) outcome
  | _ => False

inductive Progress (collector : Collector) (history : List (Event ι)) (s : System ι) : Prop
  | unused (hfree : s.initializer = none) (hcell : s.collector.collected = none)
      (hissued : issuedIn history = []) (hanswers : answersIn history = [])
  | computing (caller : ι) (hcaller : s.initializer = some caller)
      (hcell : s.collector.collected = none)
      (hunderway : Underway collector history (s.phase caller))
  | settled (outcome : Except QueryFailure Metadata) (hfree : s.initializer = none)
      (hcell : s.collector.collected = some outcome)
      (hissued : issuedIn history = (answersIn history).map Prod.fst)
      (hdialogue : collector.Dialogue anything.Shows (answersIn history) outcome)

/-- A caller that computes is the initializer, one that has returned has what is stored. -/
def Phase.Fits (s : System ι) (caller : ι) : Phase → Prop
  | .working _ => s.initializer = some caller
  | .asking _ _ => s.initializer = some caller
  | .returned result =>
    ∃ outcome, s.collector.collected = some outcome ∧ result = outcome.mapError Failure.metadata
  | _ => True

structure Invariant (collector : Collector) (history : List (Event ι)) (s : System ι) :
    Prop where
  /-- Only the outcome is ever changed in the collector. -/
  unchanged : s.collector = { collector with collected := s.collector.collected }
  fits : ∀ caller, (s.phase caller).Fits s caller
  progress : Progress collector history s

variable {collector : Collector} {history : List (Event ι)} {s t : System ι}

omit [DecidableEq ι] in
/-- An event that is neither a command nor an answer leaves what is under way. -/
theorem underway_concat {event : Event ι} (hcommand : event.command? = none)
    (hexchange : event.exchange? = none) (phase : Phase) :
    Underway collector (history ++ [event]) phase = Underway collector history phase := by
  have hissued : issuedIn (history ++ [event]) = issuedIn history := by simp [hcommand]
  have hanswers : answersIn (history ++ [event]) = answersIn history := by simp [hexchange]
  cases phase <;> simp only [Underway, hissued, hanswers]

/-- A step of one caller keeps the phases of all others. -/
theorem fits_move {caller : ι} {phase : Phase} (hnew : phase.Fits t caller)
    (hothers : ∀ other, other ≠ caller → (s.phase other).Fits t other) (other : ι) :
    ((s.move caller phase).phase other).Fits t other := by
  by_cases hother : other = caller
  · subst hother
    rw [s.move_phase_self]
    exact hnew
  · rw [s.move_phase_of_ne phase hother]
    exact hothers other hother

omit [DecidableEq ι] in
theorem Invariant.underway (hinv : Invariant collector history s) {caller : ι}
    (hcaller : s.initializer = some caller) :
    s.collector.collected = none ∧ Underway collector history (s.phase caller) := by
  cases hinv.progress with
  | unused hfree => rw [hfree] at hcaller; cases hcaller
  | settled outcome hfree => rw [hfree] at hcaller; cases hcaller
  | computing other hother hcell hunderway =>
      obtain rfl : other = caller := Option.some.inj (hother.symm.trans hcaller)
      exact ⟨hcell, hunderway⟩

omit [DecidableEq ι] in
/-- A caller at a phase that only the initializer can be at is the initializer. -/
theorem Invariant.computing (hinv : Invariant collector history s) {caller : ι} {phase : Phase}
    (hphase : s.phase caller = phase)
    (hcomputes : phase.Fits s caller → s.initializer = some caller) :
    s.initializer = some caller ∧ s.collector.collected = none ∧
      Underway collector history phase := by
  subst hphase
  have hcaller := hcomputes (hinv.fits caller)
  exact ⟨hcaller, hinv.underway hcaller⟩

omit [DecidableEq ι] in
theorem Invariant.nothing_issued (hinv : Invariant collector history s)
    (hfree : s.initializer = none) (hcell : s.collector.collected = none) :
    issuedIn history = [] ∧ answersIn history = [] := by
  cases hinv.progress with
  | unused _ _ hissued hanswers => exact ⟨hissued, hanswers⟩
  | computing caller hcaller => rw [hfree] at hcaller; cases hcaller
  | settled outcome _ hsettled => rw [hcell] at hsettled; cases hsettled

/-- A caller that does not compute may do anything that leaves the collector alone. -/
theorem Invariant.bystander (hinv : Invariant collector history s) {caller : ι} {phase : Phase}
    {event : Event ι} (hidle : ¬ Underway collector history (s.phase caller))
    (hcommand : event.command? = none) (hexchange : event.exchange? = none)
    (hfits : phase.Fits s caller) :
    Invariant collector (history ++ [event]) (s.move caller phase) where
  unchanged := hinv.unchanged
  fits := fits_move hfits fun other _ => hinv.fits other
  progress := by
    cases hinv.progress with
    | unused hfree hcell hissued hanswers =>
        exact .unused hfree hcell (by simp [hissued, hcommand]) (by simp [hanswers, hexchange])
    | computing other hother hcell hunderway =>
        have hne : other ≠ caller := by
          rintro rfl
          exact hidle hunderway
        refine .computing other hother hcell ?_
        rw [underway_concat hcommand hexchange, s.move_phase_of_ne phase hne]
        exact hunderway
    | settled outcome hfree hcell hissued hdialogue =>
        refine .settled outcome hfree hcell ?_ ?_
        · simpa [hcommand, hexchange] using hissued
        · simpa [hexchange] using hdialogue

/-- The caller that computes goes on with its plan. -/
theorem Invariant.goOn (hinv : Invariant collector history s) {caller : ι} {phase : Phase}
    {event : Event ι} (hcaller : s.initializer = some caller) (hfits : phase.Fits s caller)
    (hunderway : Underway collector (history ++ [event]) phase) :
    Invariant collector (history ++ [event]) (s.move caller phase) where
  unchanged := hinv.unchanged
  fits := fits_move hfits fun other _ => hinv.fits other
  progress := by
    refine .computing caller hcaller (hinv.underway hcaller).1 ?_
    rw [s.move_phase_self]
    exact hunderway

/-- One step keeps the invariant. -/
theorem Step.preserves {event : Event ι} (hstep : Step s event t)
    (hinv : Invariant collector history s) : Invariant collector (history ++ [event]) t := by
  cases hstep with
  | @call caller hphase =>
      refine hinv.bystander ?_ rfl rfl trivial
      simp [hphase, Underway]
  | @get caller hphase =>
      refine hinv.bystander ?_ rfl rfl trivial
      simp [hphase, Underway]
  | @finish caller outcome hphase hcell =>
      refine hinv.bystander ?_ rfl rfl ⟨outcome, hcell, rfl⟩
      simp [hphase, Underway]
  | @issue caller command next hphase =>
      obtain ⟨hcaller, -, hissued, hdialogue⟩ := hinv.computing hphase id
      refine hinv.goOn hcaller hcaller ⟨by simp [hissued, Event.command?, Event.exchange?], ?_⟩
      intro answer effects outcome htrace
      have hfirst : (Plan.run command next).Advances anything _ (next answer) :=
        Plan.Advances.run command next (Answers.ofOutcome answer)
      simpa [anything, Answers.ofOutcome, Event.exchange?] using
        hdialogue _ outcome (.step hfirst htrace)
  | @answer caller command next hphase answer =>
      obtain ⟨hcaller, -, hissued, hdialogue⟩ := hinv.computing hphase id
      refine hinv.goOn hcaller hcaller ⟨by simp [hissued, Event.command?, Event.exchange?], ?_⟩
      intro effects outcome htrace
      simpa [Event.exchange?] using hdialogue answer effects outcome htrace
  | @advance caller plan rest first hphase hfirst hquiet =>
      obtain ⟨hcaller, -, hissued, hdialogue⟩ := hinv.computing hphase id
      refine hinv.goOn hcaller hcaller ⟨by simp [hissued, Event.command?, Event.exchange?], ?_⟩
      intro effects outcome htrace
      simpa [hquiet, Event.exchange?] using hdialogue _ outcome (.step hfirst htrace)
  | @begin caller hphase hcell hfree =>
      refine ⟨hinv.unchanged, fits_move rfl ?_, ?_⟩
      · intro other hother
        have hfits := hinv.fits other
        -- nobody computed so far, so that the other phases do not speak of the initializer
        cases hphase : s.phase other <;> simp_all [Phase.Fits]
      · obtain ⟨hissued, hanswers⟩ := hinv.nothing_issued hfree hcell
        refine .computing caller rfl hcell ?_
        rw [System.begin, System.move_phase_self, underway_concat rfl rfl]
        refine ⟨by simp [hissued, hanswers], ?_⟩
        intro effects outcome htrace
        rw [hinv.unchanged] at htrace
        rw [hanswers]
        exact Collector.compute_traces htrace
  | @store caller outcome hphase =>
      obtain ⟨hcaller, hcell, hissued, hdialogue⟩ := hinv.computing hphase id
      refine ⟨?_, fits_move trivial ?_, ?_⟩
      · rw [System.store, hinv.unchanged]
      · intro other hother
        have hfits := hinv.fits other
        cases hphase : s.phase other <;> simp_all [Phase.Fits]
      · refine .settled outcome rfl rfl ?_ ?_
        · simpa [Event.command?, Event.exchange?] using hissued
        · simpa [Event.exchange?] using hdialogue [] outcome (.done outcome)

omit [DecidableEq ι] in
theorem Invariant.fresh (settings : Settings) :
    Invariant (Collector.ofSettings settings) [] (System.fresh settings : System ι) where
  unchanged := rfl
  fits _ := trivial
  progress := .unused rfl rfl rfl rfl

/-- Every run keeps the invariant. -/
theorem Run.preserves {later : List (Event ι)} (hrun : Run s later t)
    (hinv : Invariant collector history s) : Invariant collector (history ++ later) t := by
  induction hrun with
  | refl => simpa using hinv
  | snoc _ hstep ih =>
      rw [← List.append_assoc]
      exact hstep.preserves ih

/-- A caller stores an outcome only while there is none. -/
theorem Step.keeps_outcome {event : Event ι} {outcome : Except QueryFailure Metadata}
    (hstep : Step s event t) (hinv : Invariant collector history s)
    (hcell : s.collector.collected = some outcome) : t.collector.collected = some outcome := by
  cases hstep with
  | store hphase =>
      obtain ⟨-, hnone, -⟩ := hinv.computing hphase id
      rw [hnone] at hcell
      cases hcell
  | _ => exact hcell

theorem Run.keeps_outcome {later : List (Event ι)} {outcome : Except QueryFailure Metadata}
    (hrun : Run s later t) (hinv : Invariant collector history s)
    (hcell : s.collector.collected = some outcome) : t.collector.collected = some outcome := by
  induction hrun with
  | refl => exact hcell
  | snoc hearlier hstep ih => exact hstep.keeps_outcome (hearlier.preserves hinv) ih

/-! ## A single caller -/

theorem Run.trans {u : System ι} {later : List (Event ι)} (hrun : Run s history t)
    (hlater : Run t later u) : Run s (history ++ later) u := by
  induction hlater with
  | refl => simpa using hrun
  | snoc _ hstep ih =>
      rw [← List.append_assoc]
      exact .snoc ih hstep

theorem Step.run {event : Event ι} (hstep : Step s event t) : Run s [event] t :=
  .snoc .refl hstep

/-- The caller that computes can follow any trace of its plan to the end. -/
theorem Run.of_traces {σ : Type} {outside : Outside σ} {caller : ι}
    {plan : Plan (Except QueryFailure Metadata)} {effects : List Effect}
    {outcome : Except QueryFailure Metadata} (htrace : plan.Traces outside effects outcome)
    (hphase : s.phase caller = .working plan) :
    ∃ later t, Run s later t ∧ t.collector = s.collector ∧
      t.phase caller = .working (.done outcome) ∧ answersIn later = exchangesOf effects := by
  induction htrace generalizing s with
  | done outcome => exact ⟨[], s, .refl, rfl, hphase, rfl⟩
  | @step plan rest earlier effects outcome hfirst _ ih =>
      by_cases hquiet : exchangesOf earlier = []
      · obtain ⟨later, t, hrun, hcollector, hdone, hanswers⟩ :=
          ih (s.move_phase_self caller (.working rest))
        refine ⟨_, t, (Step.advance hphase (hfirst.in_anything hquiet) hquiet).run.trans hrun,
          hcollector, hdone, ?_⟩
        simp [hquiet, hanswers, Event.exchange?]
      · cases hfirst with
        | run command next state =>
            have hissue := Step.issue hphase
            have hanswer := Step.answer (s.move_phase_self caller (.asking command next))
              (outside.run command state).1.outcome
            obtain ⟨later, t, hrun, hcollector, hdone, hanswers⟩ :=
              ih (System.move_phase_self _ _ _)
            refine ⟨_, t, (hissue.run.trans hanswer.run).trans hrun, hcollector, hdone, ?_⟩
            simp [hanswers, Event.exchange?]
        | _ => simp [Effect.exchange?] at hquiet

/-- Collecting without company is one of the runs: what `collect` gives, keeps and asks for is what
a caller returns, stores and asks for that nobody disturbs. -/
theorem collect_is_run {σ : Type} (outside : Outside σ) (state : σ) {caller : ι}
    (hidle : s.phase caller = .idle) (hfree : s.initializer = none) :
    ∃ later t, Run s later t ∧
      t.collector = (s.collector.collect.perform outside state).value.2 ∧
      t.phase caller = .returned
        ((s.collector.collect.perform outside state).value.1.mapError Failure.metadata) ∧
      answersIn later = exchangesOf (s.collector.collect.perform outside state).effects := by
  have htrace := s.collector.collect.perform_traces outside state
  generalize s.collector.collect.perform outside state = performance at htrace ⊢
  have hcall := Step.call hidle
  have hwaiting := s.move_phase_self caller .waiting
  rw [Collector.collect] at htrace
  cases hcell : s.collector.collected with
  | some outcome =>
      rw [hcell] at htrace
      obtain ⟨heffects, hvalue⟩ := Plan.traces_pure.1 htrace
      have hfinish := Step.finish hwaiting hcell
      refine ⟨_, _, hcall.run.trans hfinish.run, ?_, ?_, ?_⟩
      · rw [hvalue]
        rfl
      · rw [hvalue, System.move_phase_self]
      · rw [heffects]
        rfl
  | none =>
      rw [hcell] at htrace
      obtain ⟨outcome, effects, _, hcompute, hrest, heffects⟩ := Plan.traces_bind.1 htrace
      obtain ⟨rfl, hvalue⟩ := Plan.traces_pure.1 hrest
      have hbegin := Step.begin hwaiting hcell hfree
      have hworking : ((s.move caller .waiting).begin caller).phase caller =
          .working s.collector.compute := System.move_phase_self _ caller _
      obtain ⟨later, t, hrun, hcollector, hdone, hanswers⟩ := Run.of_traces hcompute hworking
      have hstore := Step.store hdone
      have hfinish : Step (t.store caller outcome) _ _ :=
        Step.finish (t.move_phase_self caller .waiting) rfl
      have hwhole := (((hcall.run.trans hbegin.run).trans hrun).trans hstore.run).trans hfinish.run
      refine ⟨_, _, hwhole, ?_, ?_, ?_⟩
      · rw [hvalue]
        simp [System.move, System.store, hcollector, System.begin]
      · rw [hvalue, System.move_phase_self]
      · rw [heffects]
        simp [hanswers, Event.exchange?]

/-! ## What callers share -/

omit [DecidableEq ι] in
/-- What was issued and answered so far begins a dialogue. -/
theorem Invariant.begins_dialogue (hinv : Invariant collector history s) :
    ∃ ran outcome, collector.Dialogue anything.Shows ran outcome ∧
      issuedIn history <+: ran.map Prod.fst := by
  -- any continuation will do, and every plan has one
  have hcontinues (plan : Plan (Except QueryFailure Metadata)) :
      ∃ effects outcome, plan.Traces anything effects outcome :=
    ⟨_, _, plan.perform_traces anything (.ofOutcome (.ok ""))⟩
  cases hinv.progress with
  | unused hfree hcell hissued hanswers =>
      obtain ⟨effects, outcome, htrace⟩ := hcontinues collector.compute
      exact ⟨_, outcome, Collector.compute_traces htrace, by simp [hissued]⟩
  | settled outcome hfree hcell hissued hdialogue =>
      exact ⟨_, outcome, hdialogue, by simp [hissued]⟩
  | computing caller hcaller hcell hunderway =>
      cases hphase : s.phase caller with
      | working plan =>
          rw [hphase] at hunderway
          obtain ⟨hissued, hdialogue⟩ := hunderway
          obtain ⟨effects, outcome, htrace⟩ := hcontinues plan
          exact ⟨_, outcome, hdialogue effects outcome htrace, by simp [hissued]⟩
      | asking command next =>
          rw [hphase] at hunderway
          obtain ⟨hissued, hdialogue⟩ := hunderway
          obtain ⟨effects, outcome, htrace⟩ := hcontinues (next (.ok ""))
          exact ⟨_, outcome, hdialogue (.ok "") effects outcome htrace, by simp [hissued]⟩
      | _ =>
          rw [hphase] at hunderway
          exact hunderway.elim

omit [DecidableEq ι] in
theorem Invariant.prefix_questions (hinv : Invariant collector history s) :
    issuedIn history <+: collector.questions := by
  obtain ⟨ran, outcome, hdialogue, hissued⟩ := hinv.begins_dialogue
  exact hissued.trans hdialogue.prefix_questions

omit [DecidableEq ι] in
/-- The stored outcome is that of the dialogue so far. -/
theorem Invariant.settled {outcome : Except QueryFailure Metadata}
    (hinv : Invariant collector history s) (hcell : s.collector.collected = some outcome) :
    collector.Dialogue anything.Shows (answersIn history) outcome := by
  cases hinv.progress with
  | unused _ hnone => rw [hnone] at hcell; cases hcell
  | computing _ _ hnone => rw [hnone] at hcell; cases hcell
  | settled other _ hother _ hdialogue =>
      obtain rfl : other = outcome := Option.some.inj (hother.symm.trans hcell)
      exact hdialogue

/-- The tags are asked for only when the commit is known. -/
theorem Step.knows_commit {caller : ι}
    (hstep : Step s (.issued caller (collector.versionControl.command .tagsAtHead)) t)
    (hinv : Invariant collector history s) :
    ∃ commit, collector.KnowsCommit (answersIn history) commit := by
  generalize htags : collector.versionControl.command .tagsAtHead = command at hstep
  cases hstep with
  | @issue _ _ next hphase =>
      obtain ⟨-, -, -, hdialogue⟩ := hinv.computing hphase id
      have htrace := Plan.perform_traces anything (.run command next) (.ofOutcome (.ok ""))
      have hwhole := hdialogue _ _ htrace
      subst htags
      exact hwhole.knowsCommit

/-- What callers of one collector can rely on, in whatever order they take their steps and whatever
version control answers. -/
structure SharedOutcome (settings : Settings) (history : List (Event ι)) (s : System ι) :
    Prop where
  head_once : (issuedIn history).count headQuestion ≤ 1
  head_not_if_given : settings.commit.isSome → headQuestion ∉ issuedIn history
  tags_once : (issuedIn history).count tagsQuestion ≤ 1
  tags_after_commit : ∀ caller t, Step s (.issued caller tagsQuestion) t →
    ∃ commit, (Collector.ofSettings settings).KnowsCommit (answersIn history) commit
  nothing_else : ∀ command ∈ issuedIn history, command = headQuestion ∨ command = tagsQuestion
  outcome_stays : ∀ outcome later t, s.collector.collected = some outcome → Run s later t →
    t.collector.collected = some outcome
  /-- What a caller returns is what is stored, a failure as one of the metadata. -/
  returned_stored : ∀ caller result, s.phase caller = .returned result →
    ∃ outcome, s.collector.collected = some outcome ∧ result = outcome.mapError Failure.metadata
  returned_same : ∀ caller other result otherResult, s.phase caller = .returned result →
    s.phase other = .returned otherResult → result = otherResult
  /-- A stored failure is that of the first command that failed. -/
  failure_first : ∀ failure, s.collector.collected = some (.error failure) →
    ∃ earlier, answersIn history =
        earlier ++ [(VersionControl.command {} failure.query, .error failure.cause)] ∧
      ∀ exchange ∈ earlier, exchange.2.isOk
  got_iff : ∀ caller got t, Step s (.got caller got) t →
    ∀ metadata, got = some metadata ↔ s.collector.collected = some (.ok metadata)

/-- In every run of any number of callers of a fresh collector, version control is asked at most
once for each thing, and all callers share one outcome. -/
theorem callers_share_outcome {settings : Settings}
    (hrun : Run (System.fresh settings) history s) : SharedOutcome settings history s := by
  have hinv : Invariant (Collector.ofSettings settings) history s := by
    simpa using hrun.preserves (.fresh settings)
  have hissued := hinv.prefix_questions
  have hnodup : (issuedIn history).Nodup :=
    (Collector.nodup_questions _).sublist hissued.sublist
  rw [Collector.questions_ofSettings] at hissued
  have hreturned (caller : ι) (result : Except Failure Metadata)
      (hphase : s.phase caller = .returned result) :
      ∃ outcome, s.collector.collected = some outcome ∧
        result = outcome.mapError Failure.metadata := by
    have hfits := hinv.fits caller
    rw [hphase] at hfits
    exact hfits
  exact
    { head_once := List.nodup_iff_count_le_one.1 hnodup _
      head_not_if_given := by
        intro hgiven hhead
        have hmem := hissued.subset hhead
        simp [hgiven, headQuestion, tagsQuestion] at hmem
      tags_once := List.nodup_iff_count_le_one.1 hnodup _
      tags_after_commit := fun caller t hstep => hstep.knows_commit hinv
      nothing_else := by
        intro command hcommand
        have hmem := hissued.subset hcommand
        cases hgiven : settings.commit with
        | none => simpa [hgiven] using hmem
        | some commit => exact .inr (by simpa [hgiven] using hmem)
      outcome_stays := fun outcome later t hcell hlater => hlater.keeps_outcome hinv hcell
      returned_stored := hreturned
      returned_same := by
        intro caller other result otherResult hcaller hother
        obtain ⟨outcome, hcell, rfl⟩ := hreturned caller result hcaller
        obtain ⟨otherOutcome, hotherCell, rfl⟩ := hreturned other otherResult hother
        rw [Option.some.inj (hcell.symm.trans hotherCell)]
      failure_first := fun failure hcell => (hinv.settled hcell).failure
      got_iff := by
        intro caller got t hstep metadata
        cases hstep
        exact Collector.get?_eq_some_iff }

/-- Two callers, the second of which calls before the first begins to compute. -/
theorem two_callers_share_outcome :
    ∃ (history : List (Event Bool)) (s : System Bool) (metadata : Metadata),
      Run (System.fresh {}) history s ∧ SharedOutcome {} history s ∧
        issuedIn history = [headQuestion, tagsQuestion] ∧
        s.phase false = .returned (.ok metadata) ∧ s.phase true = .returned (.ok metadata) := by
  have hcalled := ((@Step.call Bool _ (System.fresh {}) false rfl).run).snoc
    (@Step.call Bool _ _ true rfl)
  have hbegun := hcalled.snoc (@Step.begin Bool _ _ false rfl rfl rfl)
  have hhead := ((hbegun.snoc (@Step.advance Bool _ _ false _ _ _ rfl (.log _ _) rfl)).snoc
    (@Step.issue Bool _ _ false _ _ rfl)).snoc
    (@Step.answer Bool _ _ false _ _ rfl (.ok "abc1234\n"))
  have htags := ((hhead.snoc (@Step.advance Bool _ _ false _ _ _ rfl (.log _ _) rfl)).snoc
    (@Step.issue Bool _ _ false _ _ rfl)).snoc
    (@Step.answer Bool _ _ false _ _ rfl (.ok "v1.0.0\n"))
  have hdone := (htags.snoc (@Step.advance Bool _ _ false _ _ _ rfl (.log _ _) rfl)).snoc
    (@Step.advance Bool _ _ false _ _ _ rfl (.wallClock _ (.ofOutcome (.ok ""))) rfl)
  have hstored := hdone.snoc (@Step.store Bool _ _ false _ rfl)
  have hreturned := (hstored.snoc (@Step.finish Bool _ _ true _ rfl rfl)).snoc
    (@Step.finish Bool _ _ false _ rfl rfl)
  exact ⟨_, _, _, hreturned, callers_share_outcome hreturned, rfl, rfl, rfl⟩

end SharedCollector

end ArtifactRelease
