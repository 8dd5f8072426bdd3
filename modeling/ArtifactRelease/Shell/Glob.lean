/-!
# Patterns for names

A star stands for any text, a question mark for any one character, and brackets for one of the
characters in them.  A quoted character stands for itself, and so does one behind a backslash, which
is left of a value that was put in for a parameter.
-/

namespace ArtifactRelease.Shell.Glob

/-- A character of a pattern, and whether it is quoted. -/
abbrev Mark := Char × Bool

inductive Member where
  | range (low high : Char)
  | category (name : String)
  deriving Repr, DecidableEq

inductive Item where
  | literal (c : Char)
  | anyOne
  | anyText
  | oneOf (negated : Bool) (members : List Member)
  deriving Repr, DecidableEq

def inCategory (name : String) (c : Char) : Bool :=
  match name with
  | "alpha" => c.isAlpha
  | "digit" => c.isDigit
  | "alnum" => c.isAlphanum
  | "upper" => c.isUpper
  | "lower" => c.isLower
  | "space" => c = ' ' || (9 ≤ c.toNat && c.toNat ≤ 13)
  | "blank" => c = ' ' || c = '\t'
  | "xdigit" => c.isDigit || ('a' ≤ c.toLower && c.toLower ≤ 'f')
  | "cntrl" => c.toNat < 32 || c.toNat = 127
  | "print" => 32 ≤ c.toNat && c.toNat < 127
  | "graph" => 32 < c.toNat && c.toNat < 127
  | "punct" => 32 < c.toNat && c.toNat < 127 && !c.isAlphanum
  | _ => false

def Member.contains : Member → Char → Bool
  | range low high, c => low ≤ c && c ≤ high
  | category name, c => inCategory name c

def Item.accepts : Item → Char → Bool
  | literal expected, c => expected = c
  | anyOne, _ => true
  | anyText, _ => false
  | oneOf negated members, c => members.any (·.contains c) != negated

/-- The characters that quoting takes a meaning from. -/
def specialCharacters : List Char :=
  ['!', '*', '?', '[', '=', '~', ':', '/', '-', ']', '\\']

/-- A pattern without the backslashes that quote.  A backslash in front of a special character that
is quoted already is quoted by that, and the character is free. -/
def resolved : (fuel : Nat) → List Mark → List Mark
  | 0, marks => marks
  | _, [] => []
  | _, [('\\', false)] => [('\\', true)]
  | fuel + 1, ('\\', false) :: (c, quoted) :: rest =>
    if quoted && c ∈ specialCharacters then ('\\', true) :: resolved fuel ((c, false) :: rest)
    else (c, true) :: resolved fuel rest
  | fuel + 1, (c, quoted) :: rest =>
    (c, quoted && c ∈ specialCharacters) :: resolved fuel rest

def resolve (pattern : List Mark) : List Mark :=
  resolved (2 * pattern.length) pattern

/-- Reads the members of a set up to the closing bracket; `first` before anything was read. -/
def readMembers : (fuel : Nat) → Bool → List Mark → Option (List Member × List Mark)
  | 0, _, _ => none
  | fuel + 1, first, marks =>
    match marks with
    | [] => none
    | (']', false) :: rest =>
      if first then
        (readMembers fuel false rest).map fun (later, rest) => (.range ']' ']' :: later, rest)
      else some ([], rest)
    | ('[', false) :: (':', false) :: rest =>
      let name := (rest.takeWhile fun mark => mark.1.isAlpha && !mark.2).map (·.1)
      match rest.drop name.length with
      | (':', false) :: (']', false) :: rest =>
        (readMembers fuel false rest).map fun (later, rest) =>
          (.category (String.ofList name) :: later, rest)
      | _ => (readMembers fuel false ((':', true) :: rest)).map fun (later, rest) =>
        (.range '[' '[' :: later, rest)
    | (low, _) :: ('-', false) :: (high, quoted) :: rest =>
      if high = ']' && !quoted then
        (readMembers fuel false ((high, quoted) :: rest)).map fun (later, rest) =>
          (.range low low :: .range '-' '-' :: later, rest)
      else (readMembers fuel false rest).map fun (later, rest) => (.range low high :: later, rest)
    | (c, _) :: rest =>
      (readMembers fuel false rest).map fun (later, rest) => (.range c c :: later, rest)

/-- The items of a pattern; a bracket without its counterpart stands for itself. -/
def items : (fuel : Nat) → List Mark → List Item
  | 0, _ => []
  | _, [] => []
  | fuel + 1, (c, quoted) :: rest =>
    if quoted then .literal c :: items fuel rest
    else match c with
      | '*' => .anyText :: items fuel rest
      | '?' => .anyOne :: items fuel rest
      | '[' =>
        let (negated, inner) := match rest with
          | ('!', false) :: inner => (true, inner)
          | _ => (false, rest)
        match readMembers (inner.length + 1) true inner with
        | some (members, rest) => .oneOf negated members :: items fuel rest
        | none => .literal c :: items fuel rest
      | _ => .literal c :: items fuel rest

def accepts : List Item → List Char → Bool
  | [], text => text.isEmpty
  | .anyText :: later, text =>
    (List.range (text.length + 1)).any fun count => accepts later (text.drop count)
  | item :: later, text =>
    match text with
    | c :: rest => item.accepts c && accepts later rest
    | [] => false

def fits (pattern : List Mark) (text : List Char) : Bool :=
  accepts (items pattern.length pattern) text

/-- Whether a pattern could fit another text than itself. -/
def isPattern (pattern : List Mark) : Bool :=
  pattern.any fun (c, quoted) => !quoted && c ∈ ['*', '?', '[']

/-- What stands between the parts of a text that is a list. -/
def gap : Char := Char.ofNat 0

/-- The first part of a list, which is all that patterns are compared with. -/
def firstPart (text : List Char) : List Char :=
  text.takeWhile (· ≠ gap)

/-- The text without its shortest or longest beginning that fits. -/
def withoutStart (pattern : List Mark) (longest : Bool) (text : List Char) : List Char :=
  let counts := if longest then (List.range (text.length + 1)).reverse
    else List.range ((firstPart text).length + 1)
  match counts.find? fun count => fits pattern (firstPart (text.take count)) with
  | some count => text.drop count
  | none => text

/-- The text without its shortest or longest end that fits. -/
def withoutEnd (pattern : List Mark) (longest : Bool) (text : List Char) : List Char :=
  let counts := if longest then List.range ((firstPart text).length + 1)
    else (List.range (text.length + 1)).reverse
  match counts.find? fun count => fits pattern (firstPart (text.drop count)) with
  | some count => text.take count
  | none => text

end ArtifactRelease.Shell.Glob
