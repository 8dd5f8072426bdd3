import ArtifactRelease.Child.Script
import ArtifactRelease.Collector
import ArtifactRelease.Plan
import ArtifactRelease.Workflow.Writer

/-!
# Rehearsals

Worlds in which a plan can be performed without touching the real one: commands are answered by a
script, the clocks stand still, and workflow commands go to memory.  `scripted` answers a command
as a whole; `staged` starts children that follow the script, so that their output passes through
the same session as that of real ones.
-/

namespace ArtifactRelease

namespace Rehearsal

/-- A rehearsal's instant, at which all of it takes place. -/
def now : Instant := ⟨1700000000, 123456789⟩

/-- The clocks and the random numbers of a rehearsal, around the way it runs commands and takes
workflow commands. -/
def still {σ : Type} (run : Child.Command → σ → Child.Answer × σ)
    (announce : Workflow.Command → σ → Except String Unit × σ) : Outside σ where
  run := run
  announce := announce
  wallClock state := (now, state)
  stopwatch state := (⟨0, 0⟩, state)
  random state := (0, state)

/-- What a scripted rehearsal remembers: the script as far as it is used up, and the bytes of the
workflow commands. -/
structure Stage where
  script : Child.Script
  written : List UInt8 := []

/-- A world where the script answers commands, and nothing is logged about them. -/
def scripted (writer : Workflow.Writer (List UInt8)) : Outside Stage :=
  still
    (fun command stage =>
      let (outcome, script) := stage.script.answer command
      (⟨outcome, []⟩, { stage with script }))
    (fun command stage =>
      let (delivery, written) := writer.deliver command stage.written
      (delivery, { stage with written }))

/-- A world where only some programs can be started, and these follow the script. -/
def staged (script : Child.Script) (available : List String) : Outside (List UInt8) :=
  still
    (fun command written => (Child.execute command (script.launch available command), written))
    Workflow.Writer.memory.deliver

end Rehearsal

end ArtifactRelease
