import ArtifactRelease.Shell.Arithmetic
import ArtifactRelease.Shell.Regular.Basic

/-!
# Reading regular expressions

A text is first cut into signs.  What a character means depends on its neighbours: a star that has
nothing to repeat stands for itself.  The signs are then put together, with a frame for every
group that is still open.
-/

namespace ArtifactRelease.Shell

open ArtifactRelease.Text (CharSet asciiClass? wordCharacters)

namespace Regular

inductive Fault where
  | unmatchedOpening
  | unmatchedClosing
  | unmatchedBracket
  | unmatchedBrace
  | badBrace
  | badReference
  | badClass
  | badRange
  | nothingToRepeat
  | trailingBackslash
  | tooBig
  | invalid
  /-- A class of characters outside of brackets. -/
  | bareClass
  deriving Repr, DecidableEq

def Fault.message : Fault → String
  | unmatchedOpening => "Unmatched ( or \\("
  | unmatchedClosing => "Unmatched ) or \\)"
  | unmatchedBracket => "Unmatched [, [^, [:, [., or [="
  | unmatchedBrace => "Unmatched \\\x7b"
  | badBrace => "Invalid content of \\\x7b\\\x7d"
  | badReference => "Invalid back reference"
  | badClass => "Invalid character class name"
  | badRange => "Invalid range end"
  | nothingToRepeat => "Invalid preceding regular expression"
  | trailingBackslash => "Trailing backslash"
  | tooBig => "Regular expression too big"
  | invalid => "Invalid regular expression"
  | bareClass => "character class syntax is [[:space:]], not [:space:]"

structure Dialect where
  /-- Whether operators are written without a backslash. -/
  extended : Bool := false
  /-- Whether an operator with nothing to repeat is a fault. -/
  strict : Bool := false
  /-- Whether brackets that look like a class of characters are a fault. -/
  refusesBareClasses : Bool := false
  /-- Whether a backslash in brackets changes the character behind it. -/
  escapesInBrackets : Bool := false
  ignoreCase : Bool := false
  deriving Repr

inductive Sign where
  | item (expression : Regular)
  | opening
  | closing
  | bar
  | repetition (least : Nat) (most : Option Nat)
  deriving Repr

def maxRepetition : Nat := 32767

/-- The character that a letter behind a backslash stands for, where that is not an operator. -/
def escapedLetter? : Char → Option Char
  | 'n' => some '\n'
  | 't' => some '\t'
  | 'r' => some '\r'
  | 'f' => some '\x0c'
  | 'v' => some '\x0b'
  | 'a' => some '\x07'
  | 'b' => some '\x08'
  | _ => none

namespace Bracket

/-- A member of a bracket: a character, or a set that cannot bound a range. -/
inductive Member where
  | character (c : Char)
  | set (set : CharSet)

/-- A member between two equal marks and brackets, as in `[:digit:]`. -/
def named (mark : Char) (text : List Char) : Except Fault (Member × List Char) :=
  let name := text.takeWhile (· ≠ mark)
  match text.drop name.length with
  | _ :: ']' :: rest =>
    if mark = ':' then
      match asciiClass? (String.ofList name) with
      | some set => .ok (.set set, rest)
      | none => .error .badClass
    else match name with
      | [c] => .ok (.character c, rest)
      | _ => .error .badClass
  | _ => .error .unmatchedBracket

/-- The next member, and what follows it. -/
def member (dialect : Dialect) (text : List Char) : Except Fault (Member × List Char) :=
  match text with
  | [] => .error .unmatchedBracket
  | '[' :: ':' :: rest => named ':' rest
  | '[' :: '=' :: rest => named '=' rest
  | '[' :: '.' :: rest => named '.' rest
  | '\\' :: c :: rest =>
    if dialect.escapesInBrackets then .ok (.character ((escapedLetter? c).getD c), rest)
    else .ok (.character '\\', c :: rest)
  | c :: rest => .ok (.character c, rest)

def members (dialect : Dialect) : (fuel : Nat) → (first : Bool) → List Char →
    Except Fault (CharSet × List Char)
  | 0, _, _ => .error .unmatchedBracket
  | fuel + 1, first, text => do
    match text with
    | ']' :: rest => if !first then return (.empty, rest)
    | _ => pure ()
    let (low, rest) ← member dialect text
    let (set, rest) ← show Except Fault (CharSet × List Char) from
      match low, rest with
      | .set set, rest => .ok (set, rest)
      | .character c, '-' :: ']' :: rest => .ok (CharSet.single c, '-' :: ']' :: rest)
      | .character c, '-' :: later => do
        match ← member dialect later with
        | (.character high, rest) =>
          if high.toNat < c.toNat then throw .badRange
          return (CharSet.range c high, rest)
        | (.set _, _) => throw .badRange
      | .character c, rest => .ok (CharSet.single c, rest)
    let (others, rest) ← members dialect fuel false rest
    return (set.union others, rest)

/-- A bracket, behind the one that opens it. -/
def read (dialect : Dialect) (text : List Char) : Except Fault (CharSet × List Char) := do
  let folded (set : CharSet) : CharSet := if dialect.ignoreCase then set.foldAscii else set
  match text with
  | [] | ['^'] => throw .invalid
  | '^' :: rest =>
    let (set, rest) ← members dialect (rest.length + 1) true rest
    return ((folded set).complement, rest)
  | _ =>
    let (set, rest) ← members dialect (text.length + 1) true text
    let taken := text.take (text.length - rest.length)
    if dialect.refusesBareClasses && taken.head? = some ':' && 3 < taken.length
      && taken.dropLast.getLast? = some ':' then throw .bareClass
    return (folded set, rest)

end Bracket

/-- The number of times in braces, behind the opening one. -/
def readTimes (dialect : Dialect) (text : List Char) :
    Except Fault (Nat × Option Nat × List Char) := do
  let number (digits : List Char) : Nat := Number.ofDigits digits
  let low := text.takeWhile Char.isDigit
  let rest := text.drop low.length
  let (most, rest) := match rest with
    | ',' :: later =>
      let high := later.takeWhile Char.isDigit
      (if high.isEmpty then none else some (number high), later.drop high.length)
    | _ => (some (number low), rest)
  let close : List Char := if dialect.extended then ['\x7d'] else ['\\', '\x7d']
  if !close.isPrefixOf rest then
    throw (if rest.isEmpty then .unmatchedBrace else .badBrace)
  if low.isEmpty && text.head? ≠ some ',' then throw .badBrace
  if most.any (· < number low) then throw .badBrace
  if maxRepetition < number low || most.any (maxRepetition < ·) then throw .tooBig
  return (number low, most, rest.drop close.length)

/-- What a letter behind a backslash stands for in all dialects. -/
def escapedItem? : Char → Option Regular
  | 'w' => some (.one wordCharacters)
  | 'W' => some (.one wordCharacters.complement)
  | 's' => (asciiClass? "space").map .one
  | 'S' => (asciiClass? "space").map fun set => .one set.complement
  | 'b' => some (.edge .word)
  | 'B' => some (.edge .noWord)
  | '<' => some (.edge .wordStart)
  | '>' => some (.edge .wordEnd)
  | '\x60' => some (.edge .textStart)
  | '\x27' => some (.edge .textEnd)
  | _ => none

/-- The operators, without the backslashes that they may need. -/
def operator? : Char → Option Sign
  | '(' => some .opening
  | ')' => some .closing
  | '|' => some .bar
  | '+' => some (.repetition 1 none)
  | '?' => some (.repetition 0 (some 1))
  | _ => none

/-- Whether there is nothing to repeat behind a sign. -/
def startsAnew : Option Sign → Bool
  | none | some .opening | some .bar | some (.item (.edge .lineStart)) => true
  | _ => false

/-- Whether an end of line is meant in front of a text. -/
def endsBefore (dialect : Dialect) (rest : List Char) : Bool :=
  match rest with
  | [] => true
  | '\\' :: ')' :: _ | '\\' :: '|' :: _ => !dialect.extended
  | _ => dialect.extended

/-- The next sign, behind another one. -/
def sign (dialect : Dialect) (last : Option Sign) (c : Char) (rest : List Char) :
    Except Fault (Option Sign × List Char) :=
  let itself (c : Char) : Option Sign := some (.item (literal dialect.ignoreCase [c]))
  let idle : Bool := startsAnew last
  /- an operator that repeats something -/
  let repeating (operator : Sign) (rest : List Char) : Except Fault (Option Sign × List Char) :=
    if !idle then .ok (some operator, rest)
    else if !dialect.extended then .ok (itself c, rest)
    else if dialect.strict then .error .nothingToRepeat
    else .ok (none, rest)
  let operating (c : Char) (rest : List Char) : Except Fault (Option Sign × List Char) :=
    match operator? c with
    | some (.repetition least most) =>
      if idle && !dialect.extended then .ok (itself c, rest)
      else repeating (.repetition least most) rest
    | some operator => .ok (some operator, rest)
    | none => .ok (itself c, rest)
  let times (rest : List Char) : Except Fault (Option Sign × List Char) := do
    if idle && dialect.strict then throw .nothingToRepeat
    let (least, most, rest) ← readTimes dialect rest
    return (if idle then none else some (.repetition least most), rest)
  match c with
  | '[' => (Bracket.read dialect rest).map fun (set, rest) => (some (.item (.one set)), rest)
  | '.' => .ok (some (.item (.one .all)), rest)
  | '*' => repeating (.repetition 0 none) rest
  | '^' =>
    .ok (if dialect.extended || idle then some (.item (.edge .lineStart)) else itself c, rest)
  | '$' =>
    .ok (if dialect.extended || endsBefore dialect rest then some (.item (.edge .lineEnd))
      else itself c, rest)
  | '\\' =>
    match rest with
    | [] => .error .trailingBackslash
    | c :: rest =>
      if c.isDigit && c ≠ '0' && !dialect.escapesInBrackets then
        .ok (some (.item (.reference (c.toNat - 48))), rest)
      else if dialect.escapesInBrackets then .ok (itself ((escapedLetter? c).getD c), rest)
      else match escapedItem? c with
        | some item => .ok (some (.item item), rest)
        | none =>
          if dialect.extended then .ok (itself c, rest)
          else if c = '\x7b' then times rest
          else operating c rest
  | _ =>
    if !dialect.extended then .ok (itself c, rest)
    else if c = '\x7b' then
      match times rest with
      | .ok result => .ok result
      | .error fault =>
        let proper : Bool := fault = .badBrace && rest.head?.any Char.isDigit
          && (rest.dropWhile fun c => c.isDigit || c = ',').head? = some '\x7d'
        if dialect.strict || proper || fault = .tooBig then .error fault else .ok (itself c, rest)
    else operating c rest

def signs (dialect : Dialect) : (fuel : Nat) → Option Sign → List Char → Except Fault (List Sign)
  | 0, _, _ => .ok []
  | _, _, [] => .ok []
  | fuel + 1, last, c :: rest => do
    match ← sign dialect last c rest with
    | (some sign, rest) => return sign :: (← signs dialect fuel (some sign) rest)
    | (none, rest) => signs dialect fuel last rest

/-- A group that is still open, or the whole. -/
structure Frame where
  number : Nat
  /-- The alternatives before the current one, the latest first. -/
  earlier : List Regular := []
  /-- The parts of the current alternative, the latest first. -/
  parts : List Regular := []

def Frame.push (frame : Frame) (part : Regular) : Frame :=
  { frame with parts := part :: frame.parts }

def Frame.finished (frame : Frame) : Regular :=
  frame.earlier.foldl (fun later earlier => .either earlier later) (ofList frame.parts.reverse)

structure Building where
  /-- The innermost frame and those around it. -/
  frame : Frame := { number := 0 }
  outer : List Frame := []
  /-- How many groups were opened. -/
  count : Nat := 0
  /-- The groups that are closed. -/
  closed : List Nat := []

def build (dialect : Dialect) (state : Building) : Sign → Except Fault Building
  | .item (.reference number) =>
    if number ∈ state.closed then
      .ok { state with frame := state.frame.push (.reference number) }
    else .error .badReference
  | .item part => .ok { state with frame := state.frame.push part }
  | .repetition least most =>
    match state.frame.parts with
    | part :: parts =>
      .ok { state with frame := { state.frame with
        parts := .repeated least most part :: parts } }
    | [] => .ok state
  | .bar =>
    .ok { state with frame := { state.frame with
      earlier := ofList state.frame.parts.reverse :: state.frame.earlier, parts := [] } }
  | .opening =>
    .ok { state with
      frame := { number := state.count + 1 }
      outer := state.frame :: state.outer
      count := state.count + 1 }
  | .closing =>
    match state.outer with
    | frame :: outer =>
      .ok { state with
        frame := frame.push (.group state.frame.number state.frame.finished)
        outer
        closed := state.frame.number :: state.closed }
    | [] =>
      if dialect.extended && !dialect.strict then
        .ok { state with frame := state.frame.push (literal false [')']) }
      else .error .unmatchedClosing

def parse (dialect : Dialect) (text : List Char) : Except Fault Regular := do
  let signs ← signs dialect (text.length + 1) none text
  let state ← signs.foldlM (build dialect) {}
  if state.outer.isEmpty then return state.frame.finished else throw .unmatchedOpening

end Regular

end ArtifactRelease.Shell
