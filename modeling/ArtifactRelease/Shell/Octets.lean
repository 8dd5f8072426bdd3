import ArtifactRelease.Text.Utf8

/-!
# Texts of bytes

A shell takes every byte for a character.  Its texts hold characters below 256 only, one for each
byte, so that bytes that are no characters pass through them unharmed.
-/

namespace ArtifactRelease.Shell

/-- The bytes of a text, each as the character with its number. -/
def octets (text : String) : List Char :=
  (Text.encode text.toList).map fun byte => Char.ofNat byte.toNat

/-- The bytes that the characters of a shell's text stand for. -/
def bytesOf (text : List Char) : List UInt8 :=
  text.map fun c => UInt8.ofNat c.toNat

def ofBytes (bytes : List UInt8) : List Char :=
  bytes.map fun byte => Char.ofNat byte.toNat

end ArtifactRelease.Shell
