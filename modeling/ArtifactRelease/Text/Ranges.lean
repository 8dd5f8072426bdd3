/-!
# Runs of code points

Properties of characters are given as tables of runs of code points.
-/

namespace ArtifactRelease.Text

/-- Whether a code point lies in one of the runs, each given by its first and last code point. -/
def inRanges (ranges : List (Nat × Nat)) (code : Nat) : Bool :=
  ranges.any fun range => range.1 ≤ code && code ≤ range.2

end ArtifactRelease.Text
