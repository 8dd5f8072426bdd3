import ArtifactRelease.Plan

/-!
# Taking timings

A duration is reported in the log when it is recorded.
-/

namespace ArtifactRelease.Timings

variable {α : Type}

def note (timings : Timings) (label : String) (duration : Duration) : Plan Timings := do
  Plan.logged (.timing label duration)
  return timings.record label duration

/-- Notes the duration of a step, whatever came of it. -/
def time (timings : Timings) (label : String) (step : Plan α) : Plan (α × Timings) := do
  let start ← Plan.elapsed
  let value ← step
  let stop ← Plan.elapsed
  let timings ← timings.note label (Duration.between start stop)
  return (value, timings)

end ArtifactRelease.Timings
