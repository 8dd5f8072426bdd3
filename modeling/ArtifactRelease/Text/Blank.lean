/-!
# Blank characters

Settings, commit hashes and tags are compared after the white space around them is gone.  White
space here is every code point with the property White_Space: the ASCII blanks, but also the
no-break space, the line and paragraph separators and the wide space of East Asian text.  The
zero-width space and the byte order mark are not blank.
-/

namespace ArtifactRelease.Text

/-- The code points with the property White_Space. -/
def isBlank (c : Char) : Bool :=
  let code := c.toNat
  (0x09 ≤ code && code ≤ 0x0D) || code == 0x20 || code == 0x85 || code == 0xA0
    || code == 0x1680 || (0x2000 ≤ code && code ≤ 0x200A) || code == 0x2028 || code == 0x2029
    || code == 0x202F || code == 0x205F || code == 0x3000

def trimStart (text : List Char) : List Char :=
  text.dropWhile isBlank

def trimEnd (text : List Char) : List Char :=
  (text.reverse.dropWhile isBlank).reverse

/-- The text without the blanks at its two ends. -/
def trim (text : List Char) : List Char :=
  trimEnd (trimStart text)

/-- `trim` on strings. -/
def trimmed (text : String) : String :=
  String.ofList (trim text.toList)

/-- The trimmed text, unless nothing is left of it. -/
def nonBlank? (text : String) : Option String :=
  let inner := trimmed text
  if inner.isEmpty then none else some inner

end ArtifactRelease.Text
