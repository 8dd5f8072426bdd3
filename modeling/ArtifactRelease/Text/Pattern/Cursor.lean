import ArtifactRelease.Text.Blank
import ArtifactRelease.Text.Pattern.Basic

/-!
# Reading patterns, character by character

A pattern is read with some switches, which it can set itself.  With the switch for free layout
blanks mean nothing, and a number sign starts a remark that goes to the end of its line.
-/

namespace ArtifactRelease.Text.Pattern

structure Switches where
  ignoreCase : Bool := false
  /-- Whether `^` and `$` stand for the ends of lines too. -/
  lines : Bool := false
  /-- Whether the point takes the ends of lines too. -/
  pointTakesAll : Bool := false
  /-- Whether repetitions are greedy only if a question mark follows. -/
  swapGreed : Bool := false
  /-- Whether characters are those of all scripts. -/
  allScripts : Bool := true
  /-- Whether carriage returns end lines too. -/
  returns : Bool := false
  freeLayout : Bool := false
  deriving Repr, DecidableEq

/-- How far the reading of a pattern has come. -/
structure Cursor where
  rest : List Char
  switches : Switches := {}
  /-- The names of the groups so far. -/
  names : List String := []
  /-- How many numbered groups there are so far. -/
  groups : Nat := 0
  deriving Repr

abbrev Reading := StateT Cursor Option

namespace Reading

/-- The text is not a pattern, or one of a kind that is not supported. -/
def refuse {α : Type} : Reading α := fun _ => none

def require (condition : Bool) : Reading Unit :=
  if condition then pure () else refuse

def rest : Reading (List Char) := return (← get).rest

def switches : Reading Switches := return (← get).switches

def setRest (rest : List Char) : Reading Unit :=
  modify fun cursor => { cursor with rest }

def setSwitches (switches : Switches) : Reading Unit :=
  modify fun cursor => { cursor with switches }

def peek? : Reading (Option Char) := return (← rest).head?

def skip (count : Nat) : Reading Unit := do
  setRest ((← rest).drop count)

/-- Takes a character; there has to be one. -/
def next : Reading Char := do
  match ← rest with
  | [] => refuse
  | c :: rest =>
    setRest rest
    return c

/-- What follows some blanks and remarks. -/
def pastLayout : (limit : Nat) → List Char → List Char
  | 0, text => text
  | _, [] => []
  | limit + 1, c :: rest =>
    if isBlank c then pastLayout limit rest
    else if c = '#' then pastLayout limit ((rest.dropWhile (· ≠ '\n')).drop 1)
    else c :: rest

def skipLayout : Reading Unit := do
  if (← switches).freeLayout then
    let text ← rest
    setRest (pastLayout text.length text)

/-- The next character that counts; there has to be one. -/
def significant : Reading Char := do
  skipLayout
  match ← peek? with
  | some c => return c
  | none => refuse

/-- The character behind the next one.  In free layout it is the first behind blanks and at most one
number sign, or the first blank if nothing else is there. -/
def second? : Reading (Option Char) := do
  let behind := (← rest).drop 1
  if (← switches).freeLayout then
    let past := match behind.dropWhile isBlank with
      | '#' :: remark => remark.dropWhile isBlank
      | past => past
    return past.head? <|> behind.head?
  else return behind.head?

/-- The next characters as they are, if they are these. -/
def skipText (text : List Char) : Reading Bool := do
  if text.isPrefixOf (← rest) then
    skip text.length
    return true
  else return false

end Reading

end ArtifactRelease.Text.Pattern
