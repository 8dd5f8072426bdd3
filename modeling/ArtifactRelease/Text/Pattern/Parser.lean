import ArtifactRelease.Text.Alphanumeric
import ArtifactRelease.Text.Pattern.Automaton
import ArtifactRelease.Text.Pattern.Bracket

/-!
# The notation of patterns

Characters, the point for any character of a line, sets in brackets, groups, alternatives,
repetitions by `*`, `+` and `?`, and marks for places in a text.  Switches can be set for the rest
of a group or for a group of their own.  Repetitions with counts are not supported, and neither is
what would need tables of all scripts.
-/

namespace ArtifactRelease.Text.Pattern

structure Part where
  pattern : Pattern
  /-- How deeply the part is nested. -/
  depth : Nat := 0
  /-- Whether the part can be repeated; a change of switches cannot. -/
  repeatable : Bool := true
  deriving Repr, DecidableEq

namespace Part

/-- No part may be nested more deeply. -/
def depthLimit : Nat := 250

def sequence : List Part → Part
  | [] => { pattern := empty }
  | [part] => part
  | parts =>
    { pattern := inSequence (parts.map (·.pattern))
      depth := 1 + (parts.map (·.depth)).foldl max 0 }

/-- Parts of which one is chosen, the earlier ones first. -/
def alternatives : List Part → Part
  | [part] => part
  | parts =>
    { pattern := Pattern.alternatives (parts.map (·.pattern))
      depth := 1 + (parts.map (·.depth)).foldl max 0 }

def times (sign : Char) (greedy : Bool) (part : Part) : Part :=
  let times : Times := match sign with
    | '+' => .atLeastOnce
    | '*' => .anyNumber
    | _ => .atMostOnce
  { pattern := part.pattern.times times greedy
    depth := 1 + part.depth }

/-- A character, in both cases if case does not matter.  The case pairs of all scripts are not
supported, and neither are bytes beyond ASCII. -/
def character (c : Char) (byte : Bool) : Reading Part := do
  let switches ← Reading.switches
  Reading.require (switches.allScripts || !byte || c.toNat < 0x80)
  Reading.require (!(switches.allScripts && switches.ignoreCase))
  return { pattern := .ofSet (if switches.ignoreCase then (CharSet.single c).foldAscii
    else CharSet.single c) }

def point : Reading Part := do
  let switches ← Reading.switches
  Reading.require switches.allScripts
  let set := if switches.pointTakesAll then CharSet.all
    else if switches.returns then (CharSet.ofChars ['\r', '\n']).complement
    else (CharSet.single '\n').complement
  return { pattern := .ofSet set }

/-- A mark for a place; words are known only as those of ASCII. -/
def place (anchor : Anchor) : Reading Part := do
  Reading.require (anchor = .textStart || anchor = .textEnd || !(← Reading.switches).allScripts)
  return { pattern := .anchored anchor }

def ofEscape : Escape → Reading Part
  | .character c byte => character c byte
  | .shorthand set negated => do
    Reading.require (!(← Reading.switches).allScripts && !negated)
    return { pattern := .ofSet set }
  | .anchor anchor => place anchor

def lineMark (line : Bool → Anchor) (text : Anchor) : Reading Part := do
  let switches ← Reading.switches
  return { pattern := .anchored (if switches.lines then line switches.returns else text) }

/-- A part that is neither a group nor a repetition. -/
def readSimple : Reading Part := do
  match ← Reading.next with
  | '\\' => ofEscape (← Escape.read)
  | '.' => point
  | '^' => lineMark .lineStart .textStart
  | '$' => lineMark .lineEnd .textEnd
  | '[' =>
    let set ← SetPart.read
    return { pattern := .ofSet set.set, depth := set.depth }
  | c => character c false

def readRepetition (sign : Char) : List Part → Reading (List Part)
  | [] => Reading.refuse
  | part :: earlier => do
    Reading.require part.repeatable
    let reluctant ← Reading.skipText ['?']
    let greedy := reluctant == (← Reading.switches).swapGreed
    return part.times sign greedy :: earlier

def switched (switches : Switches) (name : Char) (value : Bool) : Option Switches :=
  match name with
  | 'i' => some { switches with ignoreCase := value }
  | 'm' => some { switches with lines := value }
  | 's' => some { switches with pointTakesAll := value }
  | 'U' => some { switches with swapGreed := value }
  | 'u' => some { switches with allScripts := value }
  | 'R' => some { switches with returns := value }
  | 'x' => some { switches with freeLayout := value }
  | _ => none

/-- Applies the switches behind a question mark; a hyphen turns off those behind it.  No name may
stand twice, and something has to follow the hyphen. -/
def switchedBy : Switches → List Char → Bool → List Char → Option Switches
  | switches, _, _, [] => some switches
  | switches, seen, value, c :: later =>
    if c ∈ seen then none
    else if c = '-' then
      if later.isEmpty then none else switchedBy switches (c :: seen) false later
    else do switchedBy (← switched switches c value) (c :: seen) value later

/-- Whether a group can have the name. -/
def isGroupName : List Char → Bool
  | [] => false
  | first :: later =>
    (first = '_' || isAlphabetic first)
      && later.all fun c => isAlphanumeric c || c ∈ ['_', '.', '[', ']']

/-- The name of a group, up to its closing bracket; no two groups have the same name. -/
def readName : Reading Unit := do
  let text ← Reading.rest
  let name := text.takeWhile (· ≠ '>')
  let known := (← get).names
  Reading.require (isGroupName name && String.ofList name ∉ known && name.length < text.length)
  Reading.skip (name.length + 1)
  modify fun cursor => { cursor with names := String.ofList name :: known }

/-- What an opening bracket begins. -/
inductive Opening where
  | group (number : Nat)
  /-- Only brackets around a pattern. -/
  | brackets
  /-- Switches for what follows. -/
  | switches
  deriving Repr, DecidableEq

def Opening.around (opening : Opening) (body : Pattern) : Pattern :=
  match opening with
  | .group number => .group number body
  | _ => body

def readGroup : Reading Opening := do
  let cursor ← get
  set { cursor with groups := cursor.groups + 1 }
  return .group cursor.groups

/-- Reads what stands between an opening bracket and the content of its group: a name, switches, or
nothing. -/
def readOpening : Reading Opening := do
  Reading.skipLayout
  let text ← Reading.rest
  if [['?', '='], ['?', '!'], ['?', '<', '='], ['?', '<', '!']].any (·.isPrefixOf text) then
    Reading.refuse
  else if ← Reading.skipText ['?', 'P', '<'] then
    readName
    readGroup
  else if ← Reading.skipText ['?', '<'] then
    readName
    readGroup
  else if ← Reading.skipText ['?'] then
    let text ← Reading.rest
    let names := text.takeWhile fun c => c ≠ ':' && c ≠ ')'
    match switchedBy (← Reading.switches) [] true names, text.drop names.length with
    | some switches, c :: behind =>
      Reading.setRest behind
      Reading.setSwitches switches
      Reading.require (c = ':' || !names.isEmpty)
      return if c = ':' then .brackets else .switches
    | _, _ => Reading.refuse
  else readGroup

/-- Reads alternatives up to a closing bracket or the end: those before the current one, and the
parts of that, the last first. -/
def readAlternatives : (fuel : Nat) → List Part → List Part → Reading Part
  | 0, _, _ => Reading.refuse
  | fuel + 1, earlier, parts => do
    Reading.skipLayout
    let current := sequence parts.reverse
    match ← Reading.peek? with
    | none | some ')' => return alternatives (current :: earlier).reverse
    | some '|' =>
      Reading.skip 1
      readAlternatives fuel (current :: earlier) []
    | some '(' =>
      Reading.skip 1
      let switches ← Reading.switches
      match ← readOpening with
      | .switches =>
        readAlternatives fuel earlier ({ pattern := empty, repeatable := false } :: parts)
      | opening =>
        let body ← readAlternatives fuel [] []
        Reading.require (← Reading.skipText [')'])
        Reading.setSwitches switches
        readAlternatives fuel earlier
          ({ pattern := opening.around body.pattern, depth := 1 + body.depth } :: parts)
    | some c =>
      if c ∈ ['*', '+', '?'] then
        Reading.skip 1
        readAlternatives fuel earlier (← readRepetition c parts)
      else if c = '\x7b' then Reading.refuse
      else readAlternatives fuel earlier ((← readSimple) :: parts)

end Part

def parse? (text : String) : Option Pattern := do
  let (part, cursor) ← Part.readAlternatives (text.length + 1) [] [] { rest := text.toList }
  if cursor.rest.isEmpty && part.depth ≤ Part.depthLimit then some part.pattern else none

end ArtifactRelease.Text.Pattern
