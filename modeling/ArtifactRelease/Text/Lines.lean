/-!
# Lines of a text

Two readings of "one entry per line".  `splitOn` cuts at every separator and keeps all pieces, so
that joining them gives the text back.  `lines` takes a line feed as a terminator: a text that ends
in one has no empty last line, and a carriage return before the line feed belongs to the ending.
-/

namespace ArtifactRelease.Text

/-- Adds one character in front of the pieces of the text that follows it. -/
def splitStep (separator : Char) (c : Char) (pieces : List (List Char)) : List (List Char) :=
  if c = separator then [] :: pieces
  else match pieces with
    | [] => [[c]]
    | piece :: later => (c :: piece) :: later

/-- The pieces between separators, one more than there are separators. -/
def splitOn (separator : Char) (text : List Char) : List (List Char) :=
  text.foldr (splitStep separator) [[]]

/-- The text without one last character, if it is `c`. -/
def dropLastIf (c : Char) (text : List Char) : List Char :=
  if text.getLast? = some c then text.dropLast else text

/-- The lines of a text, without their endings; an unterminated last line is kept as it is. -/
def lines (text : List Char) : List (List Char) :=
  let pieces := splitOn '\n' text
  let terminated := pieces.dropLast.map (dropLastIf '\r')
  match pieces.getLast? with
  | some (c :: rest) => terminated ++ [c :: rest]
  | _ => terminated

/-- `splitOn` on strings. -/
def pieces (separator : Char) (text : String) : List String :=
  (splitOn separator text.toList).map String.ofList

end ArtifactRelease.Text
