import ArtifactRelease.Text.Alphabetic
import ArtifactRelease.Text.Numeric

/-!
# Letters and digits

The characters of names, in all scripts.
-/

namespace ArtifactRelease.Text

def isAlphanumeric (c : Char) : Bool :=
  isAlphabetic c || isNumeric c

end ArtifactRelease.Text
