import ArtifactRelease.Plan

/-!
# Traces of plans

A performance follows one branch of a plan through the states of the world outside.  What a plan
does for every behaviour of that world does not depend on how the states hang together, so that
proofs go through traces instead.  A plan advances when its first request is answered as the world
answers it in some state, and a trace is what it comes to by advancing until it is done.  Traces of
a sequence are made of traces of its parts, and every performance is a trace.
-/

namespace ArtifactRelease

/-- A command that was run, and what came of it. -/
abbrev Exchange := Child.Command × Child.Outcome

namespace Effect

def exchange? : Effect → Option Exchange
  | ran command outcome => some (command, outcome)
  | _ => none

def announcement? : Effect → Option Workflow.Command
  | announced command _ => some command
  | _ => none

end Effect

def exchangesOf (effects : List Effect) : List Exchange :=
  effects.filterMap Effect.exchange?

def announcedOf (effects : List Effect) : List Workflow.Command :=
  effects.filterMap Effect.announcement?

@[simp]
theorem exchangesOf_nil : exchangesOf [] = [] := rfl

@[simp]
theorem announcedOf_nil : announcedOf [] = [] := rfl

@[simp]
theorem exchangesOf_cons (effect : Effect) (effects : List Effect) :
    exchangesOf (effect :: effects) =
      effect.exchange?.toList ++ exchangesOf effects := by
  cases h : effect.exchange? <;> simp [exchangesOf, h]

@[simp]
theorem announcedOf_cons (effect : Effect) (effects : List Effect) :
    announcedOf (effect :: effects) =
      effect.announcement?.toList ++ announcedOf effects := by
  cases h : effect.announcement? <;> simp [announcedOf, h]

@[simp]
theorem exchangesOf_append (earlier later : List Effect) :
    exchangesOf (earlier ++ later) = exchangesOf earlier ++ exchangesOf later :=
  List.filterMap_append

@[simp]
theorem announcedOf_append (earlier later : List Effect) :
    announcedOf (earlier ++ later) = announcedOf earlier ++ announcedOf later :=
  List.filterMap_append

theorem commandsOf_eq_map_exchangesOf (effects : List Effect) :
    commandsOf effects = (exchangesOf effects).map Prod.fst := by
  rw [commandsOf, exchangesOf, List.map_filterMap]
  congr 1
  funext effect
  cases effect <;> rfl

theorem mem_commandsOf {exchange : Exchange} {effects : List Effect}
    (hmem : exchange ∈ exchangesOf effects) : exchange.1 ∈ commandsOf effects := by
  rw [commandsOf_eq_map_exchangesOf]
  exact List.mem_map_of_mem hmem

namespace Child

def Answer.effects (answer : Answer) (command : Command) : List Effect :=
  .ran command answer.outcome :: answer.logged.map .logged

@[simp]
theorem exchangesOf_answer_effects (answer : Answer) (command : Command) :
    exchangesOf (answer.effects command) = [(command, answer.outcome)] := by
  have hlogged : exchangesOf (answer.logged.map .logged) = [] := by
    simp [exchangesOf, List.filterMap_map, Function.comp_def, Effect.exchange?]
  simp [Answer.effects, Effect.exchange?, hlogged]

@[simp]
theorem announcedOf_answer_effects (answer : Answer) (command : Command) :
    announcedOf (answer.effects command) = [] := by
  have hlogged : announcedOf (answer.logged.map .logged) = [] := by
    simp [announcedOf, List.filterMap_map, Function.comp_def, Effect.announcement?]
  simp [Answer.effects, Effect.announcement?, hlogged]

end Child

def Workflow.Command.effects (command : Workflow.Command) (delivery : Except String Unit) :
    List Effect :=
  .announced command delivery :: match delivery with
    | .ok () => []
    | .error reason => [.logged (.commandNotWritten command reason)]

namespace Plan

variable {α β σ : Type}

/-- The first request of a plan is answered: the effects of that, and the plan that is left. -/
inductive Advances (outside : Outside σ) : Plan α → List Effect → Plan α → Prop
  | run (command : Child.Command) (next : Child.Outcome → Plan α) (state : σ) :
      Advances outside (run command next) ((outside.run command state).1.effects command)
        (next (outside.run command state).1.outcome)
  | announce (command : Workflow.Command) (next : Except String Unit → Plan α) (state : σ) :
      Advances outside (announce command next)
        [.announced command (outside.announce command state).1]
        (next (outside.announce command state).1)
  | print (text : String) (next : Plan α) :
      Advances outside (print text next) [.printed text] next
  | log (event : Log.Event) (next : Plan α) : Advances outside (log event next) [.logged event] next
  | enter (span : Log.Span) (next : Plan α) :
      Advances outside (enter span next) [.entered span] next
  | leave (next : Plan α) : Advances outside (leave next) [.left] next
  | wallClock (next : Instant → Plan α) (state : σ) :
      Advances outside (wallClock next) [] (next (outside.wallClock state).1)
  | stopwatch (next : Duration → Plan α) (state : σ) :
      Advances outside (stopwatch next) [] (next (outside.stopwatch state).1)
  | random (next : BitVec 128 → Plan α) (state : σ) :
      Advances outside (random next) [] (next (outside.random state).1)

/-- The plan can come to a value with some effects. -/
inductive Traces (outside : Outside σ) : Plan α → List Effect → α → Prop
  | done (value : α) : Traces outside (done value) [] value
  | step {plan rest : Plan α} {earlier later : List Effect} {value : α}
      (hfirst : Advances outside plan earlier rest) (hrest : Traces outside rest later value) :
      Traces outside plan (earlier ++ later) value

/-- Every performance of a plan is one of its traces. -/
theorem perform_traces (outside : Outside σ) (plan : Plan α) (state : σ) :
    plan.Traces outside (plan.perform outside state).effects
      (plan.perform outside state).value := by
  induction plan generalizing state with
  | done value => exact .done value
  | run command next ih => exact .step (.run command next state) (ih _ _)
  | announce command next ih => exact .step (.announce command next state) (ih _ _)
  | print text next ih => exact .step (.print text next) (ih _)
  | log event next ih => exact .step (.log event next) (ih _)
  | enter span next ih => exact .step (.enter span next) (ih _)
  | leave next ih => exact .step (.leave next) (ih _)
  | wallClock next ih => exact .step (.wallClock next state) (ih _ _)
  | stopwatch next ih => exact .step (.stopwatch next state) (ih _ _)
  | random next ih => exact .step (.random next state) (ih _ _)

/-! ## Performances of sequences -/

theorem perform_pure (outside : Outside σ) (value : α) (state : σ) :
    (pure value : Plan α).perform outside state = ⟨value, [], state⟩ := rfl

theorem perform_logged (outside : Outside σ) (event : Log.Event) (state : σ) :
    (logged event).perform outside state = ⟨(), [.logged event], state⟩ := rfl

theorem perform_command (outside : Outside σ) (command : Child.Command) (state : σ) :
    (Plan.command command).perform outside state =
      ⟨(outside.run command state).1.outcome, (outside.run command state).1.effects command,
        (outside.run command state).2⟩ := by
  simp [Plan.command, perform, Performance.after, Child.Answer.effects]

theorem perform_emit (outside : Outside σ) (command : Workflow.Command) (state : σ) :
    (emit command).perform outside state =
      ⟨(), command.effects (outside.announce command state).1,
        (outside.announce command state).2⟩ := by
  cases hdelivery : (outside.announce command state).1 with
  | ok => simp [emit, perform, Performance.after, Workflow.Command.effects, hdelivery]
  | error reason => simp [emit, perform, Performance.after, Workflow.Command.effects, hdelivery]

/-- The second part of a sequence is performed where the first has left the world. -/
theorem perform_bind (outside : Outside σ) (plan : Plan α) (next : α → Plan β) (state : σ) :
    (plan >>= next).perform outside state =
      ((next (plan.perform outside state).value).perform outside
        (plan.perform outside state).state).after (plan.perform outside state).effects := by
  change (plan.bind next).perform outside state = _
  induction plan generalizing state with
  | done value => rfl
  | wallClock _ ih => simp only [Plan.bind, perform, ih]
  | stopwatch _ ih => simp only [Plan.bind, perform, ih]
  | random _ ih => simp only [Plan.bind, perform, ih]
  | leave _ ih => simp only [Plan.bind, perform, Performance.after, ih, List.append_assoc]
  | _ _ _ ih => simp only [Plan.bind, perform, Performance.after, ih, List.append_assoc]

/-! ## Traces of sequences -/

theorem Advances.bind {outside : Outside σ} {plan rest : Plan α} {effects : List Effect}
    (hfirst : plan.Advances outside effects rest) (next : α → Plan β) :
    (plan.bind next).Advances outside effects (rest.bind next) := by
  cases hfirst <;> constructor

theorem advances_bind {outside : Outside σ} {plan : Plan α} {next : α → Plan β}
    {effects : List Effect} {rest : Plan β}
    (hfirst : (plan.bind next).Advances outside effects rest) :
    (∃ value, plan = done value) ∨
      ∃ middle, plan.Advances outside effects middle ∧ rest = middle.bind next := by
  cases plan with
  | done value => exact .inl ⟨value, rfl⟩
  | _ =>
      cases hfirst
      exact .inr ⟨_, by constructor, rfl⟩

/-- The traces of a sequence are those of its first part followed by those of its second. -/
theorem traces_bind {outside : Outside σ} {plan : Plan α} {next : α → Plan β}
    {effects : List Effect} {value : β} :
    (plan >>= next).Traces outside effects value ↔
      ∃ middle earlier later, plan.Traces outside earlier middle ∧
        (next middle).Traces outside later value ∧ effects = earlier ++ later := by
  constructor
  · intro htrace
    change (plan.bind next).Traces outside effects value at htrace
    generalize hwhole : plan.bind next = whole at htrace
    induction htrace generalizing plan with
    | done value =>
        cases plan with
        | done result =>
            change next result = done value at hwhole
            exact ⟨result, [], [], .done result, by rw [hwhole]; exact .done value, rfl⟩
        | _ => cases hwhole
    | @step whole rest earlier later value hfirst hrest ih =>
        subst hwhole
        rcases advances_bind hfirst with ⟨result, rfl⟩ | ⟨middle, hmiddle, rfl⟩
        · exact ⟨result, [], _, .done result, .step hfirst hrest, rfl⟩
        · obtain ⟨result, front, back, hfront, hback, rfl⟩ := ih rfl
          exact ⟨result, _, back, .step hmiddle hfront, hback, by simp⟩
  · rintro ⟨middle, earlier, later, hfirst, hsecond, rfl⟩
    induction hfirst with
    | done value => exact hsecond
    | step hstep _ ih =>
        rw [List.append_assoc]
        exact .step (hstep.bind next) (ih hsecond)

/-! ## Traces of single requests -/

theorem traces_done {outside : Outside σ} {result value : α} {effects : List Effect} :
    (done result).Traces outside effects value ↔ effects = [] ∧ value = result := by
  constructor
  · intro htrace
    cases htrace with
    | done => exact ⟨rfl, rfl⟩
    | step hfirst => cases hfirst
  · rintro ⟨rfl, rfl⟩
    exact .done value

theorem traces_pure {outside : Outside σ} {result value : α} {effects : List Effect} :
    (pure result : Plan α).Traces outside effects value ↔ effects = [] ∧ value = result :=
  traces_done

/-- A plan that is not done advances first. -/
theorem traces_iff_advances {outside : Outside σ} {plan : Plan α} {effects : List Effect}
    {value : α} (hrequest : ∀ result, plan ≠ done result) :
    plan.Traces outside effects value ↔
      ∃ earlier rest later, plan.Advances outside earlier rest ∧
        rest.Traces outside later value ∧ effects = earlier ++ later := by
  constructor
  · intro htrace
    cases htrace with
    | done => exact absurd rfl (hrequest value)
    | step hfirst hrest => exact ⟨_, _, _, hfirst, hrest, rfl⟩
  · rintro ⟨earlier, rest, later, hfirst, hrest, rfl⟩
    exact .step hfirst hrest

theorem traces_log {outside : Outside σ} {event : Log.Event} {next : Plan α}
    {effects : List Effect} {value : α} :
    (log event next).Traces outside effects value ↔
      ∃ later, next.Traces outside later value ∧ effects = .logged event :: later := by
  rw [traces_iff_advances nofun]
  constructor
  · rintro ⟨_, _, later, hfirst, hrest, rfl⟩
    cases hfirst
    exact ⟨later, hrest, rfl⟩
  · rintro ⟨later, hrest, rfl⟩
    exact ⟨_, next, later, .log event next, hrest, rfl⟩

theorem traces_logged {outside : Outside σ} {event : Log.Event} {effects : List Effect}
    {value : Unit} : (logged event).Traces outside effects value ↔ effects = [.logged event] := by
  simp [logged, traces_log, traces_done]

/-- What follows a logged event is all that can vary. -/
theorem traces_logged_bind {outside : Outside σ} {event : Log.Event} {next : Unit → Plan α}
    {effects : List Effect} {value : α} :
    (logged event >>= next).Traces outside effects value ↔
      ∃ later, (next ()).Traces outside later value ∧ effects = .logged event :: later := by
  change (log event (next ())).Traces outside effects value ↔ _
  exact traces_log

/-- A single request comes to the answer of some state. -/
theorem traces_request {outside : Outside σ} {plan : Plan α} {did : σ → List Effect}
    {answer : σ → α} {effects : List Effect} {value : α}
    (hrequest : ∀ result, plan ≠ done result)
    (hanswer : ∀ earlier rest, plan.Advances outside earlier rest ↔
      ∃ state, earlier = did state ∧ rest = done (answer state)) :
    plan.Traces outside effects value ↔
      ∃ state, effects = did state ∧ value = answer state := by
  rw [traces_iff_advances hrequest]
  constructor
  · rintro ⟨_, _, later, hfirst, hrest, rfl⟩
    obtain ⟨state, rfl, rfl⟩ := (hanswer _ _).1 hfirst
    obtain ⟨rfl, rfl⟩ := traces_done.1 hrest
    exact ⟨state, List.append_nil _, rfl⟩
  · rintro ⟨state, rfl, rfl⟩
    exact ⟨_, _, [], (hanswer _ _).2 ⟨state, rfl, rfl⟩, .done _, (List.append_nil _).symm⟩

theorem traces_command {outside : Outside σ} {command : Child.Command} {effects : List Effect}
    {outcome : Child.Outcome} :
    (Plan.command command).Traces outside effects outcome ↔
      ∃ state, effects = (outside.run command state).1.effects command ∧
        outcome = (outside.run command state).1.outcome := by
  apply traces_request nofun
  intro earlier rest
  constructor
  · rintro ⟨⟩
    exact ⟨_, rfl, rfl⟩
  · rintro ⟨state, rfl, rfl⟩
    exact .run command done state

theorem traces_now {outside : Outside σ} {effects : List Effect} {instant : Instant} :
    now.Traces outside effects instant ↔
      ∃ state, effects = [] ∧ instant = (outside.wallClock state).1 := by
  apply traces_request nofun
  intro earlier rest
  constructor
  · rintro ⟨⟩
    exact ⟨_, rfl, rfl⟩
  · rintro ⟨state, rfl, rfl⟩
    exact .wallClock done state

theorem traces_elapsed {outside : Outside σ} {effects : List Effect} {reading : Duration} :
    elapsed.Traces outside effects reading ↔
      ∃ state, effects = [] ∧ reading = (outside.stopwatch state).1 := by
  apply traces_request nofun
  intro earlier rest
  constructor
  · rintro ⟨⟩
    exact ⟨_, rfl, rfl⟩
  · rintro ⟨state, rfl, rfl⟩
    exact .stopwatch done state

theorem traces_randomBits {outside : Outside σ} {effects : List Effect} {bits : BitVec 128} :
    randomBits.Traces outside effects bits ↔
      ∃ state, effects = [] ∧ bits = (outside.random state).1 := by
  apply traces_request nofun
  intro earlier rest
  constructor
  · rintro ⟨⟩
    exact ⟨_, rfl, rfl⟩
  · rintro ⟨state, rfl, rfl⟩
    exact .random done state

theorem traces_within {outside : Outside σ} {span : Log.Span} {plan : Plan α}
    {effects : List Effect} {value : α} :
    (within span plan).Traces outside effects value ↔
      ∃ inner, plan.Traces outside inner value ∧
        effects = .entered span :: (inner ++ [.left]) := by
  have hleave (result : α) (later : List Effect) :
      (leave (done result)).Traces outside later value ↔ later = [.left] ∧ value = result := by
    rw [traces_iff_advances nofun]
    constructor
    · rintro ⟨_, _, _, ⟨⟩, hrest, rfl⟩
      obtain ⟨rfl, rfl⟩ := traces_done.1 hrest
      exact ⟨rfl, rfl⟩
    · rintro ⟨rfl, rfl⟩
      exact ⟨_, _, [], .leave _, .done _, rfl⟩
  rw [within, traces_iff_advances nofun]
  constructor
  · rintro ⟨_, _, _, ⟨⟩, hrest, rfl⟩
    obtain ⟨result, inner, later, hinner, hlater, rfl⟩ := traces_bind.1 hrest
    obtain ⟨rfl, rfl⟩ := (hleave _ _).1 hlater
    exact ⟨inner, hinner, rfl⟩
  · rintro ⟨inner, hinner, rfl⟩
    exact ⟨_, _, _, .enter span _,
      traces_bind.2 ⟨value, inner, _, hinner, (hleave _ _).2 ⟨rfl, rfl⟩, rfl⟩, rfl⟩

/-- A workflow command is announced, whether or not it could be written. -/
theorem traces_emit {outside : Outside σ} {command : Workflow.Command} {effects : List Effect}
    {value : Unit} (htrace : (emit command).Traces outside effects value) :
    announcedOf effects = [command] ∧ exchangesOf effects = [] := by
  obtain ⟨_, _, later, hfirst, hrest, rfl⟩ := (traces_iff_advances nofun).1 htrace
  cases hfirst with
  | announce _ _ state =>
      cases hdelivery : (outside.announce command state).1 with
      | ok =>
          rw [hdelivery] at hrest
          obtain ⟨rfl, -⟩ := traces_done.1 hrest
          simp [Effect.announcement?, Effect.exchange?]
      | error reason =>
          rw [hdelivery] at hrest
          obtain ⟨_, hdone, rfl⟩ := traces_log.1 hrest
          obtain ⟨rfl, -⟩ := traces_done.1 hdone
          simp [Effect.announcement?, Effect.exchange?]

/-! ## What a plan can do -/

/-- Every effect of every trace of the plan is allowed. -/
def Only (outside : Outside σ) (allowed : Effect → Prop) (plan : Plan α) : Prop :=
  ∀ effects value, plan.Traces outside effects value → ∀ effect ∈ effects, allowed effect

variable {outside : Outside σ} {allowed : Effect → Prop}

/-- What comes second counts only for the values that the first part can come to. -/
theorem Only.bind_of_traces {plan : Plan α} {next : α → Plan β} (hplan : plan.Only outside allowed)
    (hnext : ∀ effects value, plan.Traces outside effects value →
      (next value).Only outside allowed) :
    (plan >>= next).Only outside allowed := by
  intro effects value htrace effect heffect
  obtain ⟨middle, earlier, later, hfirst, hsecond, rfl⟩ := traces_bind.1 htrace
  rcases List.mem_append.1 heffect with hearlier | hlater
  · exact hplan earlier middle hfirst effect hearlier
  · exact hnext earlier middle hfirst later value hsecond effect hlater

theorem Only.bind {plan : Plan α} {next : α → Plan β} (hplan : plan.Only outside allowed)
    (hnext : ∀ value, (next value).Only outside allowed) :
    (plan >>= next).Only outside allowed :=
  hplan.bind_of_traces fun _ value _ => hnext value

theorem only_pure (value : α) : (pure value : Plan α).Only outside allowed := by
  intro effects result htrace
  rw [(traces_pure.1 htrace).1]
  exact List.forall_mem_nil _

theorem only_logged {event : Log.Event} (hevent : allowed (.logged event)) :
    (logged event).Only outside allowed := by
  intro effects value htrace
  rw [traces_logged.1 htrace]
  exact List.forall_mem_singleton.2 hevent

theorem only_command {command : Child.Command}
    (hanswer : ∀ state, ∀ effect ∈ (outside.run command state).1.effects command,
      allowed effect) :
    (Plan.command command).Only outside allowed := by
  intro effects outcome htrace
  obtain ⟨state, rfl, -⟩ := traces_command.1 htrace
  exact hanswer state

theorem only_now : now.Only outside allowed := by
  intro effects instant htrace
  obtain ⟨state, rfl, -⟩ := traces_now.1 htrace
  exact List.forall_mem_nil _

theorem only_elapsed : elapsed.Only outside allowed := by
  intro effects reading htrace
  obtain ⟨state, rfl, -⟩ := traces_elapsed.1 htrace
  exact List.forall_mem_nil _

theorem only_randomBits : randomBits.Only outside allowed := by
  intro effects bits htrace
  obtain ⟨state, rfl, -⟩ := traces_randomBits.1 htrace
  exact List.forall_mem_nil _

theorem Only.within {span : Log.Span} {plan : Plan α} (hplan : plan.Only outside allowed)
    (hentered : allowed (.entered span)) (hleft : allowed .left) :
    (within span plan).Only outside allowed := by
  intro effects value htrace
  obtain ⟨inner, hinner, rfl⟩ := traces_within.1 htrace
  rw [List.forall_mem_cons, List.forall_mem_append, List.forall_mem_singleton]
  exact ⟨hentered, hplan inner value hinner, hleft⟩

theorem only_emit {command : Workflow.Command}
    (hannounced : ∀ delivery, allowed (.announced command delivery))
    (hreported : ∀ reason, allowed (.logged (.commandNotWritten command reason))) :
    (emit command).Only outside allowed := by
  intro effects value htrace
  obtain ⟨_, _, later, hfirst, hrest, rfl⟩ := (traces_iff_advances nofun).1 htrace
  cases hfirst with
  | announce _ _ state =>
      refine List.forall_mem_cons.2 ⟨hannounced _, ?_⟩
      cases hdelivery : (outside.announce command state).1 with
      | ok =>
          rw [hdelivery] at hrest
          rw [(traces_done.1 hrest).1]
          exact List.forall_mem_nil _
      | error reason =>
          rw [hdelivery] at hrest
          obtain ⟨_, hdone, rfl⟩ := traces_log.1 hrest
          rw [(traces_done.1 hdone).1]
          exact List.forall_mem_singleton.2 (hreported reason)

def Silent (outside : Outside σ) (plan : Plan α) : Prop :=
  ∀ effects value, plan.Traces outside effects value → announcedOf effects = []

theorem Only.silent {plan : Plan α}
    (hplan : plan.Only outside fun effect => effect.announcement? = none) :
    plan.Silent outside := by
  intro effects value htrace
  rw [announcedOf, List.filterMap_eq_nil_iff]
  exact hplan effects value htrace

end Plan

end ArtifactRelease
