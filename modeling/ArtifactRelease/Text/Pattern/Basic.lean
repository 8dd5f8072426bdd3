import ArtifactRelease.Text.CharSet

/-!
# Text patterns

A pattern describes texts.  Patterns are put together by functions that keep them in a simple form:
what is empty leaves no trace in a sequence, characters in a row are one literal, and alternatives
that start in the same way share their start.  The form counts, because it decides which way through
a text is preferred.
-/

namespace ArtifactRelease.Text

structure Surroundings where
  before : Option Char
  behind : Option Char
  deriving Repr, DecidableEq

/-- Conditions on a place in a text. -/
inductive Anchor where
  | textStart
  | textEnd
  /-- Start and end of a line; with `returns`, carriage returns end lines as well. -/
  | lineStart (returns : Bool)
  | lineEnd (returns : Bool)
  | wordEdge
  | noWordEdge
  | wordStart
  | wordEnd
  deriving Repr, DecidableEq

namespace Anchor

/-- Whether a place meets the condition.  A line does not end between a carriage return and the
line feed behind it. -/
def holds (anchor : Anchor) (place : Surroundings) : Bool :=
  let within (c : Option Char) : Bool := c.any wordCharacters.contains
  match anchor with
  | textStart => place.before.isNone
  | textEnd => place.behind.isNone
  | lineStart false => place.before.all (· = '\n')
  | lineEnd false => place.behind.all (· = '\n')
  | lineStart true => place.before.all fun c =>
    c = '\n' || (c = '\r' && place.behind ≠ some '\n')
  | lineEnd true => place.behind.all fun c =>
    c = '\r' || (c = '\n' && place.before ≠ some '\r')
  | wordEdge => within place.before != within place.behind
  | noWordEdge => within place.before == within place.behind
  | wordStart => !within place.before && within place.behind
  | wordEnd => within place.before && !within place.behind

/-- Whether a place is known to meet the condition once what stands before it is known. -/
def holdsBehind (anchor : Anchor) (before : Option Char) : Bool :=
  match anchor with
  | textStart => before.isNone
  | lineStart _ => before.all (· = '\n')
  | _ => false

end Anchor

/-- How often a part of a text may be repeated. -/
inductive Times where
  | atMostOnce
  | atLeastOnce
  | anyNumber
  deriving Repr, DecidableEq

inductive Pattern where
  | empty
  /-- Characters one after the other, at least one. -/
  | literal (first : Char) (later : List Char)
  | one (set : CharSet)
  | anchored (anchor : Anchor)
  /-- A numbered group; no two groups are the same. -/
  | group (number : Nat) (body : Pattern)
  | sequence (first second : Pattern)
  | either (first second : Pattern)
  /-- A greedy repetition tries to go on before it tries to end. -/
  | repeated (times : Times) (greedy : Bool) (body : Pattern)
  deriving Repr, DecidableEq

namespace Pattern

/-- A pattern that no text meets. -/
def never : Pattern := one CharSet.empty

def ofSet (set : CharSet) : Pattern :=
  match set.normal with
  | ⟨[(first, last)]⟩ =>
    if first = last then literal (Char.ofNat first) [] else one ⟨[(first, last)]⟩
  | set => one set

def parts : Pattern → List Pattern
  | empty => []
  | sequence first second => first :: parts second
  | part => [part]

def ofParts : List Pattern → Pattern
  | [] => empty
  | [part] => part
  | first :: later => sequence first (ofParts later)

def joinLiterals : List Pattern → List Pattern
  | [] => []
  | literal first later :: rest =>
    match joinLiterals rest with
    | literal next more :: rest => literal first (later ++ next :: more) :: rest
    | rest => literal first later :: rest
  | part :: rest => part :: joinLiterals rest

def inSequence (patterns : List Pattern) : Pattern :=
  ofParts (joinLiterals (patterns.flatMap parts))

/-- The patterns between which there is a choice. -/
def branches : Pattern → List Pattern
  | either first second => first :: branches second
  | branch => [branch]

def ofBranches : List Pattern → Pattern
  | [] => never
  | [branch] => branch
  | first :: later => either first (ofBranches later)

def isSequence : Pattern → Bool
  | sequence .. => true
  | _ => false

/-- The character of a literal that has only one. -/
def character? : Pattern → Option Char
  | literal c [] => some c
  | _ => none

def set? : Pattern → Option CharSet
  | one set => some set
  | _ => none

/-- A choice between single characters, or between sets of them, as one set. -/
def choice (patterns : List Pattern) : Pattern :=
  match patterns.flatMap branches with
  | [branch] => branch
  | branches =>
    match branches.mapM character?, branches.mapM set? with
    | some characters, _ => ofSet (CharSet.ofChars characters)
    | none, some sets => ofSet ⟨sets.flatMap (·.runs)⟩
    | none, none => ofBranches branches

/-- What two lists have in common at their start. -/
def commonStart : List Pattern → List Pattern → List Pattern
  | first :: later, second :: others =>
    if first = second then first :: commonStart later others else []
  | _, _ => []

/-- The parts with which all of some sequences start. -/
def sharedStart : List Pattern → List Pattern
  | [] => []
  | first :: others =>
    if (first :: others).all isSequence then
      others.foldl (fun shared other => commonStart shared other.parts) first.parts
    else []

/-- A choice between patterns, the earlier ones preferred.  What all of them start with stands in
front of the choice. -/
def alternatives (patterns : List Pattern) : Pattern :=
  let whole := choice patterns
  match whole with
  | either .. =>
    match sharedStart whole.branches with
    | [] => whole
    | start =>
      inSequence (start ++
        [choice (whole.branches.map fun branch => ofParts (branch.parts.drop start.length))])
  | _ => whole

/-- Whether only the empty text can meet the pattern. -/
def takesNothing : Pattern → Bool
  | empty | anchored _ => true
  | literal .. | one _ => false
  | group _ body | repeated _ _ body => takesNothing body
  | sequence first second | either first second => takesNothing first && takesNothing second

/-- A repetition.  What takes nothing need not be repeated. -/
def times (times : Times) (greedy : Bool) (body : Pattern) : Pattern :=
  if body.takesNothing then
    match times with
    | .atLeastOnce => body
    | _ => repeated .atMostOnce greedy body
  else repeated times greedy body

/-- The length of the shortest texts that meet the pattern, unless no text meets a part of it. -/
def leastLength? : Pattern → Option Nat
  | empty | anchored _ => some 0
  | literal _ later => some (later.length + 1)
  | one set => if set.isEmpty then none else some 1
  | group _ body => leastLength? body
  | sequence first second => do return (← leastLength? first) + (← leastLength? second)
  | either first second => do return min (← leastLength? first) (← leastLength? second)
  | repeated .atLeastOnce _ body => leastLength? body
  | repeated _ _ body => (leastLength? body).map fun _ => 0

end Pattern

end ArtifactRelease.Text
