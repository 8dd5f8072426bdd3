import ArtifactRelease.Child.Execution
import ArtifactRelease.Timestamp

/-!
# Plans

A deployment does nothing by itself: it is a plan, a tree of requests to the world outside, where
each answer selects the branch that follows.  Performing a plan against an `Outside` gives its
result and the effects it had, in order.  What holds of all plans' performances holds for every
behaviour of the programs that are run, of the clocks and of the writer.
-/

namespace ArtifactRelease

inductive Plan (α : Type) where
  | done (value : α)
  | run (command : Child.Command) (next : Child.Outcome → Plan α)
  | announce (command : Workflow.Command) (next : Except String Unit → Plan α)
  | print (text : String) (next : Plan α)
  | log (event : Log.Event) (next : Plan α)
  | enter (span : Log.Span) (next : Plan α)
  | leave (next : Plan α)
  | wallClock (next : Instant → Plan α)
  | stopwatch (next : Duration → Plan α)
  | random (next : BitVec 128 → Plan α)

namespace Plan

variable {α β σ : Type}

def bind : Plan α → (α → Plan β) → Plan β
  | done value, f => f value
  | run command next, f => run command fun outcome => (next outcome).bind f
  | announce command next, f => announce command fun delivery => (next delivery).bind f
  | print text next, f => print text (next.bind f)
  | log event next, f => log event (next.bind f)
  | enter span next, f => enter span (next.bind f)
  | leave next, f => leave (next.bind f)
  | wallClock next, f => wallClock fun instant => (next instant).bind f
  | stopwatch next, f => stopwatch fun reading => (next reading).bind f
  | random next, f => random fun bits => (next bits).bind f

instance : Monad Plan where
  pure := done
  bind := bind

def command (command : Child.Command) : Plan Child.Outcome :=
  run command done

def logged (event : Log.Event) : Plan Unit :=
  log event (done ())

def printed (text : String) : Plan Unit :=
  print text (done ())

def now : Plan Instant :=
  wallClock done

def elapsed : Plan Duration :=
  stopwatch done

def randomBits : Plan (BitVec 128) :=
  random done

/-- The plan inside a span of the log. -/
def within (span : Log.Span) (plan : Plan α) : Plan α :=
  enter span (plan.bind fun value => leave (done value))

/-- Writes a workflow command.  A command that cannot be written is reported in the log and does not
stop the plan. -/
def emit (command : Workflow.Command) : Plan Unit :=
  announce command fun
    | .ok () => done ()
    | .error reason => log (.commandNotWritten command reason) (done ())

end Plan

/-- The world outside, with a state `σ`. -/
structure Outside (σ : Type) where
  run : Child.Command → σ → Child.Answer × σ
  announce : Workflow.Command → σ → Except String Unit × σ
  wallClock : σ → Instant × σ
  stopwatch : σ → Duration × σ
  random : σ → BitVec 128 × σ

/-- Something that a plan did. -/
inductive Effect where
  | ran (command : Child.Command) (outcome : Child.Outcome)
  | announced (command : Workflow.Command) (delivery : Except String Unit)
  | printed (text : String)
  | logged (event : Log.Event)
  | entered (span : Log.Span)
  | left

namespace Effect

def command? : Effect → Option Child.Command
  | ran command _ => some command
  | _ => none

def event? : Effect → Option Log.Event
  | logged event => some event
  | _ => none

/-- What an effect writes to standard output, if workflow commands are written there too. -/
def stdout : Effect → List Char
  | announced command (.ok ()) => command.line
  | printed text => text.toList
  | _ => []

end Effect

def commandsOf (effects : List Effect) : List Child.Command :=
  effects.filterMap Effect.command?

def eventsOf (effects : List Effect) : List Log.Event :=
  effects.filterMap Effect.event?

/-- The events that were logged, each with the spans around it, the innermost first. -/
def placedEvents : List Log.Span → List Effect → List (List Log.Span × Log.Event)
  | _, [] => []
  | spans, .logged event :: later => (spans, event) :: placedEvents spans later
  | spans, .entered span :: later => placedEvents (span :: spans) later
  | spans, .left :: later => placedEvents spans.tail later
  | spans, _ :: later => placedEvents spans later

def stdoutOf (effects : List Effect) : String :=
  String.ofList (effects.flatMap Effect.stdout)

structure Performance (α σ : Type) where
  value : α
  effects : List Effect
  state : σ

namespace Performance

variable {α σ : Type}

def after (performance : Performance α σ) (earlier : List Effect) : Performance α σ :=
  { performance with effects := earlier ++ performance.effects }

end Performance

namespace Plan

variable {α σ : Type}

def perform (outside : Outside σ) : Plan α → σ → Performance α σ
  | done value, state => ⟨value, [], state⟩
  | run command next, state =>
    let (answer, state) := outside.run command state
    (perform outside (next answer.outcome) state).after
      (.ran command answer.outcome :: answer.logged.map .logged)
  | announce command next, state =>
    let (delivery, state) := outside.announce command state
    (perform outside (next delivery) state).after [.announced command delivery]
  | print text next, state => (perform outside next state).after [.printed text]
  | log event next, state => (perform outside next state).after [.logged event]
  | enter span next, state => (perform outside next state).after [.entered span]
  | leave next, state => (perform outside next state).after [.left]
  | wallClock next, state =>
    let (instant, state) := outside.wallClock state
    perform outside (next instant) state
  | stopwatch next, state =>
    let (reading, state) := outside.stopwatch state
    perform outside (next reading) state
  | random next, state =>
    let (bits, state) := outside.random state
    perform outside (next bits) state

end Plan

end ArtifactRelease
