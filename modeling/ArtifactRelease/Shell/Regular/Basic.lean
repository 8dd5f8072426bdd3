import ArtifactRelease.Text.CharSet

/-!
# Regular expressions

The expressions that small programs search texts for.  A search finds the first place at which an
expression fits, and there the longest text that it fits; of several ways to fit that, the one that
repeats more and takes earlier alternatives counts.

The ways are tried one after the other, each as a thread of things still to be done.  A number of
steps bounds the search, since a reference back to a group can make it long.
-/

namespace ArtifactRelease.Shell

open ArtifactRelease.Text (CharSet wordCharacters)

inductive Edge where
  | lineStart
  | lineEnd
  | textStart
  | textEnd
  | word
  | noWord
  | wordStart
  | wordEnd
  /-- No part of a word stands in front of the place. -/
  | noWordBefore
  /-- No part of a word stands behind the place. -/
  | noWordBehind
  deriving Repr, DecidableEq

inductive Regular where
  | empty
  | one (set : CharSet)
  | edge (edge : Edge)
  | sequence (first second : Regular)
  | either (first second : Regular)
  | repeated (least : Nat) (most : Option Nat) (body : Regular)
  | group (number : Nat) (body : Regular)
  /-- The text that a group has fitted. -/
  | reference (number : Nat)
  deriving Repr, DecidableEq

namespace Regular

/-- The texts that groups have fitted, as first positions and lengths, the latest first. -/
abbrev Groups := List (Nat × Nat × Nat)

structure Found where
  start : Nat
  length : Nat
  groups : Groups := []
  deriving Repr, DecidableEq

namespace Found

/-- The place of a group; the whole is number zero. -/
def place? (found : Found) (number : Nat) : Option (Nat × Nat) :=
  if number = 0 then some (found.start, found.length)
  else (found.groups.find? (·.1 = number)).map (·.2)

/-- The text of a group, which is empty if the group took no part. -/
def text (found : Found) (whole : List Char) (number : Nat) : List Char :=
  match found.place? number with
  | some (start, length) => (whole.drop start).take length
  | none => []

end Found

inductive Task where
  | fit (expression : Regular)
  | close (number start : Nat)
  /-- A repetition behind some rounds, of which the last began at a position. -/
  | again (least : Nat) (most : Option Nat) (body : Regular) (rounds : Nat) (start : Nat)
  deriving Repr

structure Thread where
  tasks : List Task
  before : Option Char
  rest : List Char
  position : Nat
  groups : Groups := []

structure Manner where
  /-- Whether case counts where a text is to come again.  Sets of characters hold both cases. -/
  ignoreCase : Bool := false
  /-- Whether `^` and `$` fit at line ends inside of the text. -/
  lines : Bool := false
  /-- Whether the text begins where a line does. -/
  atLineStart : Bool := true
  deriving Repr

def holds (manner : Manner) (edge : Edge) (thread : Thread) : Bool :=
  let within (c : Option Char) : Bool := c.any wordCharacters.contains
  let before := within thread.before
  let behind := within thread.rest.head?
  match edge with
  | .lineStart => (thread.position = 0 && manner.atLineStart)
    || (manner.lines && thread.before = some '\n')
  | .lineEnd => thread.rest.isEmpty || (manner.lines && thread.rest.head? = some '\n')
  | .textStart => thread.position = 0 && manner.atLineStart
  | .textEnd => thread.rest.isEmpty
  | .word => before != behind
  | .noWord => before == behind
  | .wordStart => !before && behind
  | .wordEnd => before && !behind
  | .noWordBefore => !before
  | .noWordBehind => !behind

/-- Passes a text, if it is what comes next. -/
def skip? (manner : Manner) : List Char → Thread → Option Thread
  | [], thread => some thread
  | expected :: later, thread =>
    match thread.rest with
    | c :: rest =>
      if c = expected || (manner.ignoreCase && c.toLower = expected.toLower) then
        skip? manner later
          { thread with before := some c, rest, position := thread.position + 1 }
      else none
    | [] => none

/-- The threads that a task leads to, in the order in which they are followed. -/
def branch (manner : Manner) (whole : List Char) (task : Task) (thread : Thread) : List Thread :=
  let doing (tasks : List Task) : Thread := { thread with tasks := tasks ++ thread.tasks }
  match task with
  | .close number start =>
    [{ thread with groups := (number, start, thread.position - start) :: thread.groups }]
  | .again least most body rounds start =>
    let another := doing [.fit body, .again least most body (rounds + 1) thread.position]
    if rounds < least then [another]
    else if most.any (· ≤ rounds) || (0 < rounds && thread.position = start) then [thread]
    else [another, thread]
  | .fit expression =>
    match expression with
    | .empty => [thread]
    | .one set =>
      match thread.rest with
      | c :: rest =>
        if set.contains c then
          [{ thread with before := some c, rest, position := thread.position + 1 }]
        else []
      | [] => []
    | .edge condition => if holds manner condition thread then [thread] else []
    | .sequence first second => [doing [.fit first, .fit second]]
    | .either first second => [doing [.fit first], doing [.fit second]]
    | .repeated least most body => [doing [.again least most body 0 thread.position]]
    | .group number body => [doing [.fit body, .close number thread.position]]
    | .reference number =>
      match thread.groups.find? (·.1 = number) with
      | some (_, start, length) =>
        ((skip? manner ((whole.drop start).take length) thread).map ([·])).getD []
      | none => []

/-- Follows threads to their ends, and gives the longest fit. -/
def follow (manner : Manner) (whole : List Char) (start : Nat) :
    (steps : Nat) → List Thread → Option Found → Option Found
  | 0, _, best => best
  | _, [], best => best
  | steps + 1, thread :: others, best =>
    match thread.tasks with
    | [] =>
      let length := thread.position - start
      let best := if best.all (·.length < length) then some ⟨start, length, thread.groups⟩ else best
      if thread.rest.isEmpty then best else follow manner whole start steps others best
    | task :: tasks =>
      follow manner whole start steps
        (branch manner whole task { thread with tasks } ++ others) best

def maxSteps : Nat := 100000

/-- The longest fit at a position, where a part of the text is left. -/
def fitAt? (expression : Regular) (manner : Manner) (whole : List Char) (before : Option Char)
    (rest : List Char) (position : Nat) : Option Found :=
  follow manner whole position maxSteps
    [{ tasks := [.fit expression], before, rest, position }] none

/-- The first fit from a position on. -/
def findFrom? (expression : Regular) (manner : Manner) (whole : List Char) :
    Option Char → List Char → Nat → Option Found
  | before, [], position => expression.fitAt? manner whole before [] position
  | before, c :: rest, position =>
    match expression.fitAt? manner whole before (c :: rest) position with
    | some found => some found
    | none => findFrom? expression manner whole (some c) rest (position + 1)

/-- The first fit in a text. -/
def find? (expression : Regular) (manner : Manner) (text : List Char) : Option Found :=
  expression.findFrom? manner text none text 0

/-- All fits from a position on, one behind the other; an empty one right behind another does not
count. -/
def findAllFrom (expression : Regular) (manner : Manner) (whole : List Char) :
    (fuel : Nat) → (last : Option Nat) → Option Char → List Char → Nat → List Found
  | 0, _, _, _, _ => []
  | fuel + 1, last, before, rest, position =>
    match expression.findFrom? manner whole before rest position with
    | none => []
    | some found =>
      let stop := found.start + found.length
      let counts : Bool := 0 < found.length || last ≠ some found.start
      let next := if found.length = 0 then stop + 1 else stop
      let later := if whole.length < next then []
        else findAllFrom expression manner whole fuel (some stop)
          (if next = 0 then none else whole[next - 1]?) (whole.drop next) next
      if counts then found :: later else later

def findAll (expression : Regular) (manner : Manner) (text : List Char) : List Found :=
  expression.findAllFrom manner text (text.length + 2) none none text 0

def groupCount : Regular → Nat
  | .empty | .one _ | .edge _ | .reference _ => 0
  | .sequence first second | .either first second => first.groupCount + second.groupCount
  | .repeated _ _ body => body.groupCount
  | .group _ body => body.groupCount + 1

def ofList (items : List Regular) : Regular :=
  items.foldr .sequence .empty

/-- An expression that fits a text as it is, or in either case. -/
def literal (ignoreCase : Bool) (text : List Char) : Regular :=
  ofList (text.map fun c =>
    let set := CharSet.single c
    .one (if ignoreCase then set.foldAscii else set))

end Regular

end ArtifactRelease.Shell
