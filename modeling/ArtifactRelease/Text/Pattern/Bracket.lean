import ArtifactRelease.Text.Pattern.Escape

/-!
# Sets in brackets

A set lists characters, runs of characters, named sets and further sets in brackets; lists can be
combined by `&&`, `--` and `~~`, from left to right.  Sets that would need the case pairs of all
scripts are not supported, nor are sets beyond ASCII while characters are those of ASCII.
-/

namespace ArtifactRelease.Text.Pattern

/-- A part of a set with the depth of its nesting. -/
structure SetPart where
  set : CharSet
  depth : Nat := 0
  deriving Repr, DecidableEq

namespace SetPart

/-- The set with both cases of its letters, if case does not matter. -/
def folded (set : CharSet) : Reading CharSet := do
  let switches ← Reading.switches
  if !switches.ignoreCase then return set
  else if !switches.allScripts then return set.foldAscii
  else
    Reading.require set.isEmpty
    return set

/-- The set, or all characters outside of it. -/
def settled (negated : Bool) (set : CharSet) : Reading CharSet := do
  let set ← folded set
  if negated then
    Reading.require (← Reading.switches).allScripts
    return set.complement
  else return set

/-- Characters beyond ASCII, and bytes beyond it, need all scripts. -/
def requireCharacter (c : Char) : Reading Unit := do
  Reading.require ((← Reading.switches).allScripts || c.toNat < 0x80)

def ofEscape : Escape → Reading SetPart
  | .character c _ => do
    requireCharacter c
    return ⟨CharSet.single c, 0⟩
  | .shorthand set negated => do
    Reading.require (!(← Reading.switches).allScripts && !negated)
    return ⟨set, 0⟩
  | .anchor _ => Reading.refuse

/-- A character of a set, as it is or behind a backslash. -/
def readItem : Reading Escape := do
  match ← Reading.next with
  | '\\' => Escape.read
  | c => return .character c false

def readRun : Reading SetPart := do
  let first ← readItem
  let sign ← Reading.significant
  let behind ← Reading.second?
  if sign ≠ '-' || behind = some ']' || behind = some '-' then ofEscape first
  else
    Reading.skip 1
    let _ ← Reading.significant
    match first, ← readItem with
    | .character first _, .character last _ =>
      Reading.require (first ≤ last)
      requireCharacter first
      requireCharacter last
      return ⟨CharSet.range first last, 0⟩
    | _, _ => Reading.refuse

/-- A named set such as `[:digit:]`, with what follows it. -/
def named? (text : List Char) : Option (Bool × CharSet × List Char) :=
  match text with
  | '[' :: ':' :: rest =>
    let (negated, rest) := match rest with
      | '^' :: rest => (true, rest)
      | _ => (false, rest)
    match rest.dropWhile (· ≠ ':') with
    | ':' :: ']' :: behind =>
      let name := String.ofList (rest.takeWhile (· ≠ ':'))
      let set? : Option CharSet := match name with
        | "ascii" => some ⟨[(0x00, 0x7F)]⟩
        | "word" => some wordCharacters
        | _ => asciiClass? name
      set?.map fun set => (negated, set, behind)
    | _ => none
  | _ => none

def union : List SetPart → SetPart
  | [] => ⟨CharSet.empty, 0⟩
  | [part] => part
  | parts =>
    ⟨⟨parts.flatMap (·.set.runs)⟩, 1 + (parts.map (·.depth)).foldl max 0⟩

inductive Combination where
  | intersection
  | difference
  | symmetricDifference
  deriving Repr, DecidableEq

def Combination.apply : Combination → CharSet → CharSet → CharSet
  | .intersection => CharSet.intersection
  | .difference => CharSet.difference
  | .symmetricDifference => CharSet.symmetricDifference

/-- A set that waits for the second one. -/
abbrev Pending := Option (SetPart × Combination)

def combined (pending : Pending) (second : SetPart) : Reading SetPart := do
  match pending with
  | none => return second
  | some (first, combination) =>
    let set := combination.apply (← folded first.set) (← folded second.set)
    return ⟨set, 1 + max first.depth second.depth⟩

/-- The start of a set behind its bracket: whether it is negated, and the hyphens, or else the
closing bracket, that stand first and for themselves. -/
def readStart : Reading (Bool × List SetPart) := do
  let c ← Reading.significant
  if c = '^' then
    Reading.skip 1
    let _ ← Reading.significant
  let text ← Reading.rest
  let hyphens ← readHyphens text.length []
  if hyphens.isEmpty && (← Reading.peek?) = some ']' then
    Reading.skip 1
    let _ ← Reading.significant
    return (c = '^', [⟨CharSet.single ']', 0⟩])
  else return (c = '^', hyphens)
where
  readHyphens : (limit : Nat) → List SetPart → Reading (List SetPart)
    | 0, found => return found
    | limit + 1, found => do
      if (← Reading.peek?) = some '-' then
        Reading.skip 1
        let _ ← Reading.significant
        readHyphens limit (⟨CharSet.single '-', 0⟩ :: found)
      else return found

def combination? : List Char → Option Combination
  | '&' :: '&' :: _ => some .intersection
  | '-' :: '-' :: _ => some .difference
  | '~' :: '~' :: _ => some .symmetricDifference
  | _ => none

/-- A set in brackets, once its closing bracket was passed. -/
def closed (negated : Bool) (content : SetPart) : Reading SetPart :=
  return ⟨← settled negated content.set, 1 + content.depth⟩

/-- Reads a set up to its closing bracket. -/
def readContent : (fuel : Nat) → Pending → List SetPart → Reading SetPart
  | 0, _, _ => Reading.refuse
  | fuel + 1, pending, parts => do
    let c ← Reading.significant
    let text ← Reading.rest
    match named? text with
    | some (negated, set, behind) =>
      Reading.setRest behind
      readContent fuel pending (⟨← settled negated set, 0⟩ :: parts)
    | none =>
      if c = '[' then
        Reading.skip 1
        let (negated, start) ← readStart
        let inner ← closed negated (← readContent fuel none start)
        readContent fuel pending (inner :: parts)
      else if c = ']' then
        Reading.skip 1
        combined pending (union parts)
      else match combination? text with
        | some combination =>
          Reading.skip 2
          readContent fuel (some (← combined pending (union parts), combination)) []
        | none => readContent fuel pending ((← readRun) :: parts)

def read : Reading SetPart := do
  let text ← Reading.rest
  let (negated, start) ← readStart
  closed negated (← readContent (text.length + 1) none start)

end SetPart

end ArtifactRelease.Text.Pattern
