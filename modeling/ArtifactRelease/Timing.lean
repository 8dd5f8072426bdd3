import ArtifactRelease.Number.Decimal

/-!
# Timings

Durations of the steps of a run, under labels, in the order in which they were recorded.
-/

namespace ArtifactRelease

open ArtifactRelease.Number

/-- A span of time; the nanoseconds are less than a second. -/
structure Duration where
  seconds : Nat
  nanoseconds : Nat
  deriving Repr, DecidableEq

namespace Duration

def ofNanoseconds (count : Nat) : Duration :=
  ⟨count / 1000000000, count % 1000000000⟩

def toNanoseconds (duration : Duration) : Nat :=
  duration.seconds * 1000000000 + duration.nanoseconds

/-- The time from an earlier reading of a clock to a later one. -/
def between (start stop : Duration) : Duration :=
  ofNanoseconds (stop.toNanoseconds - start.toNanoseconds)

/-- The seconds as a double: the fraction is rounded first, then the sum. -/
def seconds64 (duration : Duration) : Binary64 :=
  let fraction := (Binary64.ofNat? duration.nanoseconds).bind fun nanoseconds =>
    (Binary64.ofNat? 1000000000).bind nanoseconds.div?
  let sum := (Binary64.ofNat? duration.seconds).bind fun whole => fraction.bind whole.add?
  sum.getD Binary64.zero

/-- The seconds with three places. -/
def text (duration : Duration) : String :=
  String.ofList (fixed 3 duration.seconds64.ratio)

/-- Whole milliseconds, as far as 64 bits hold them. -/
def milliseconds (duration : Duration) : Nat :=
  min (duration.toNanoseconds / 1000000) (UInt64.size - 1)

end Duration

structure Timing where
  label : String
  duration : Duration
  deriving Repr, DecidableEq

abbrev Timings := List Timing

namespace Timings

def record (timings : Timings) (label : String) (duration : Duration) : Timings :=
  timings ++ [⟨label, duration⟩]

/-- The first duration under a label. -/
def get? (timings : Timings) (label : String) : Option Duration :=
  (timings.find? (·.label = label)).map (·.duration)

def labels (timings : Timings) : List String :=
  timings.map (·.label)

end Timings

end ArtifactRelease
