import ArtifactRelease.Shell.Octets
import ArtifactRelease.Shell.Utility.Sed.Script

/-!
# Editing lines by a script

Lines are taken one after the other into a buffer, and the script is followed for each.  A second
buffer keeps what is put aside.  What is left in the first one is written at the end, unless that
is not wanted.
-/

namespace ArtifactRelease.Shell.Sed

/-- A text of lines; the last one may lack its end. -/
structure Buffer where
  text : List Char := []
  ended : Bool := true
  deriving Repr

/-- A line of the input, and the file that it comes from. -/
structure InputLine where
  buffer : Buffer
  file : String
  deriving Repr

/-- A range that is being passed, with the number of its last line if that is known. -/
structure OpenRange where
  index : Nat
  until? : Option Nat
  deriving Repr

structure Manner where
  /-- Whether lines are written only on request. -/
  quiet : Bool := false
  /-- What ends a line. -/
  separator : Char := '\n'
  /-- The contents of files that can be read. -/
  content : String → Option (List Char)

structure Editor where
  buffer : Buffer := {}
  held : Buffer := {}
  input : List InputLine
  file : String := "-"
  number : Nat := 0
  /-- Whether something was replaced since the line was read or a jump was taken. -/
  replaced : Bool := false
  lastSought : Option Sought := none
  ranges : List OpenRange := []
  /-- The ranges before the first line that have ended. -/
  finished : List Nat := []
  /-- What is written when the line is done. -/
  pending : List (List Char) := []
  /-- What was written, the latest first, and whether the last line still lacks its end. -/
  output : List (List Char) := []
  unended : Bool := false
  /-- What was written to files, the latest first. -/
  written : List (String × List Char) := []
  /-- How many lines were taken from a file. -/
  taken : List (String × Nat) := []
  /-- An expression was asked for before there was any. -/
  broken : Bool := false
  status : Nat := 0

namespace Editor

/-! ## Writing -/

def emit (editor : Editor) (text : List Char) : Editor :=
  let output := if editor.unended then ['\n'] :: editor.output else editor.output
  { editor with output := text :: output, unended := false }

/-- Writes a line with its end, if it has one. -/
def emitLine (manner : Manner) (editor : Editor) (text : List Char) (ended : Bool) : Editor :=
  if ended then editor.emit (text ++ [manner.separator])
  else { editor.emit text with unended := true }

def emitBuffer (manner : Manner) (editor : Editor) : Editor :=
  editor.emitLine manner editor.buffer.text editor.buffer.ended

def emitPending (editor : Editor) : Editor :=
  { editor.pending.foldl emit editor with pending := [] }

def writeTo (manner : Manner) (editor : Editor) (name : String) (text : List Char) : Editor :=
  let line := text ++ if editor.buffer.ended then [manner.separator] else []
  if name = "/dev/stdout" then { editor with output := line :: editor.output }
  else { editor with written := (name, line) :: editor.written }

def finishLine (manner : Manner) (editor : Editor) : Editor :=
  (if manner.quiet then editor else editor.emitBuffer manner).emitPending

/-! ## Reading -/

def isLast (editor : Editor) : Bool := editor.input.isEmpty

/-- Takes the next line, behind what is already there if `joined`. -/
def fetchLine (manner : Manner) (joined : Bool) (editor : Editor) : Editor :=
  match editor.input with
  | [] => editor
  | line :: input =>
    let text := if joined then editor.buffer.text ++ manner.separator :: line.buffer.text
      else line.buffer.text
    { editor with
      buffer := { text, ended := line.buffer.ended }
      input
      file := line.file
      number := editor.number + 1
      replaced := false }

/-! ## Choosing lines -/

def expression (editor : Editor) (sought : Option Sought) : Option Sought :=
  sought.or editor.lastSought

def fits (editor : Editor) (sought : Option Sought) : Bool × Editor :=
  match editor.expression sought with
  | some sought =>
    ((sought.regular.find? sought.manner editor.buffer.text).isSome,
      { editor with lastSought := some sought })
  | none => (false, { editor with broken := true })

def isAt (editor : Editor) : Address → Bool × Editor
  | .line number => (editor.number = number, editor)
  | .last => (editor.isLast, editor)
  | .every first step =>
    (if step = 0 then editor.number = first
      else first ≤ editor.number && (editor.number - first) % step = 0, editor)
  | .fitting sought => editor.fits sought

def closeRange (editor : Editor) (index : Nat) : Editor :=
  { editor with ranges := editor.ranges.filter (·.index ≠ index) }

def openRange (editor : Editor) (index : Nat) (until? : Option Nat) : Editor :=
  { editor with ranges := { index, until? } :: editor.ranges }

/-- Whether a range that ends at a known line begins here; it is one line if that has passed. -/
def beginUntil (editor : Editor) (index number : Nat) : Editor :=
  if number ≤ editor.number then editor else editor.openRange index (some number)

def beginRange (editor : Editor) (index : Nat) : Bound → Editor
  | .line number => editor.beginUntil index number
  | .further count => editor.beginUntil index (editor.number + count)
  | .multiple factor =>
    if factor = 0 then editor
    else editor.beginUntil index ((editor.number / factor + 1) * factor)
  | .last => if editor.isLast then editor else editor.openRange index none
  | .fitting _ => editor.openRange index none

/-- Whether the current line is in a range that was begun, which may end here. -/
def continueRange (editor : Editor) (range : OpenRange) (bound : Bound) : Bool × Editor :=
  match range.until?, bound with
  | some last, _ =>
    (editor.number ≤ last,
      if last ≤ editor.number then editor.closeRange range.index else editor)
  | none, .fitting sought =>
    let (ends, editor) := editor.fits sought
    (true, if ends then editor.closeRange range.index else editor)
  | none, _ => (true, if editor.isLast then editor.closeRange range.index else editor)

def selects (editor : Editor) (instruction : Instruction) : Bool × Editor :=
  let index := instruction.index
  let (selected, editor) := match instruction.selector with
    | .always => (true, editor)
    | .single address => editor.isAt address
    | .range first bound =>
      match editor.ranges.find? (·.index = index) with
      | some range => editor.continueRange range bound
      | none =>
        let (begins, editor) := editor.isAt first
        (begins, if begins then editor.beginRange index bound else editor)
    | .untilFitting sought =>
      if index ∈ editor.finished then (false, editor)
      else
        let (ends, editor) := editor.fits sought
        (true, if ends then { editor with finished := index :: editor.finished } else editor)
  (selected != instruction.negated, editor)

/-- Whether an instruction is in the middle of its range. -/
def inRange (editor : Editor) (instruction : Instruction) : Bool :=
  !instruction.negated && editor.ranges.any (·.index = instruction.index)

end Editor

/-! ## Replacing -/

/-- How the letters that follow are changed: all of them, and the next one. -/
structure Casing where
  all : Option CaseChange := none
  next : Option CaseChange := none

namespace Casing

def change (casing : Casing) : CaseChange → Casing
  | .stop => {}
  | .upper => { all := some .upper }
  | .lower => { all := some .lower }
  | other => { casing with next := some other }

def apply (casing : Casing) (text : List Char) : List Char × Casing :=
  let all (c : Char) : Char := match casing.all with
    | some .upper => c.toUpper
    | some .lower => c.toLower
    | _ => c
  match text with
  | [] => ([], casing)
  | first :: rest =>
    let first := match casing.next with
      | some .upperNext => first.toUpper
      | some .lowerNext => first.toLower
      | _ => all first
    (first :: rest.map all, { casing with next := none })

end Casing

def replaced (whole : List Char) (found : Regular.Found) (parts : List Part) : List Char :=
  (parts.foldl (fun (texts, casing) part =>
    let plain (text : List Char) : List (List Char) × Casing :=
      let (text, casing) := casing.apply text
      (text :: texts, casing)
    match part with
    | .text content => plain content
    | .group number => plain (found.text whole number)
    | .change change => (texts, casing.change change))
    (([] : List (List Char)), ({} : Casing))).1.reverse.flatten

/-- A text with replacements for the fits that count; none if there are none. -/
def substituted (substitution : Substitution) (sought : Sought) (text : List Char) :
    Option (List Char) :=
  let fits := (sought.regular.findAll sought.manner text).drop (substitution.occurrence - 1)
  let fits := if substitution.all then fits else fits.take 1
  if fits.isEmpty then none
  else
    let (pieces, stop) := fits.foldl (fun (pieces, stop) found =>
      (replaced text found substitution.replacement
        :: (text.drop stop).take (found.start - stop) :: pieces, found.start + found.length))
      (([] : List (List Char)), 0)
    some ((text.drop stop :: pieces).reverse.flatten)

/-! ## Showing unusual characters -/

def visible (c : Char) : List Char :=
  match c with
  | '\\' => ['\\', '\\']
  | '\x07' => ['\\', 'a']
  | '\x08' => ['\\', 'b']
  | '\x0c' => ['\\', 'f']
  | '\n' => ['\\', 'n']
  | '\r' => ['\\', 'r']
  | '\t' => ['\\', 't']
  | '\x0b' => ['\\', 'v']
  | _ =>
    if ' ' ≤ c && c ≤ '~' then [c]
    else
      let digits := Nat.toDigits 8 c.toNat
      '\\' :: List.replicate (3 - digits.length) '0' ++ digits

/-- A text so that it can be seen, in lines of at most `width` characters if that is not zero. -/
def visibleLines (width : Nat) (text : List Char) : List Char :=
  (text.foldl (fun (shown, column) c =>
    let next := visible c
    if width ≠ 0 && width - 1 < column + next.length then
      (shown ++ ['\\', '\n'] ++ next, next.length)
    else (shown ++ next, column + next.length)) (([] : List Char), 0)).1 ++ ['$', '\n']

/-! ## Following a script -/

/-- How work on a line goes on behind an instruction. -/
inductive Outcome where
  | proceed (rest : Script)
  /-- The line is done, and written if that is wanted. -/
  | finished
  /-- The line is done, and not written. -/
  | dropped
  /-- The script starts again with what is left. -/
  | restarted
  /-- Everything is done; the line is written if that is wanted. -/
  | stopped
  /-- Everything is done. -/
  | broken

/-- The text up to the first end of a line. -/
def firstLine (text : List Char) : List Char :=
  text.takeWhile (· ≠ '\n')

/-- Adds a text behind another one, on a line of its own. -/
def Buffer.join (manner : Manner) (first second : Buffer) : Buffer :=
  { text := first.text ++ manner.separator :: second.text, ended := second.ended }

def fileLines (text : List Char) : List (List Char) :=
  text.foldr (fun c lines =>
    if c = '\n' then [c] :: lines
    else match lines with
      | [] => [[c]]
      | line :: later => (c :: line) :: later) []

/-- Does what an instruction says, for a line that it is for. -/
def perform (manner : Manner) (script : Script) (instruction : Instruction) (rest : Script)
    (editor : Editor) : Outcome × Editor :=
  let proceed (editor : Editor) : Outcome × Editor := (.proceed rest, editor)
  match instruction.action with
  | .nothing | .opening | .closing | .label _ => proceed editor
  | .jump test name =>
    let target := if name.isEmpty then [] else (script.behindLabel? name).getD []
    match test with
    | .always => (.proceed target, editor)
    | .replaced =>
      if editor.replaced then (.proceed target, { editor with replaced := false })
      else proceed editor
    | .notReplaced =>
      if editor.replaced then proceed { editor with replaced := false }
      else (.proceed target, editor)
  | .lineNumber => proceed (editor.emit ((toString editor.number).toList ++ ['\n']))
  | .fileName => proceed (editor.emit (editor.file.toList ++ ['\n']))
  | .append text => proceed { editor with pending := editor.pending ++ [text] }
  | .insert text => proceed (editor.emit text)
  | .change text => (.dropped, if editor.inRange instruction then editor else editor.emit text)
  | .delete => (.dropped, editor)
  | .deleteFirst =>
    if editor.buffer.text.contains '\n' then
      let later := (editor.buffer.text.dropWhile (· ≠ '\n')).drop 1
      (.restarted, { editor with buffer := { editor.buffer with text := later } })
    else (.dropped, editor)
  | .clear => proceed { editor with buffer := { editor.buffer with text := [] } }
  | .fetch => proceed { editor with buffer := editor.held }
  | .fetchMore => proceed { editor with buffer := editor.buffer.join manner editor.held }
  | .hold => proceed { editor with held := editor.buffer }
  | .holdMore => proceed { editor with held := editor.held.join manner editor.buffer }
  | .exchange => proceed { editor with buffer := editor.held, held := editor.buffer }
  | .list width =>
    proceed (editor.emit (visibleLines (width.getD 70) editor.buffer.text))
  | .next =>
    if editor.isLast then (.stopped, editor)
    else proceed ((editor.finishLine manner).fetchLine manner false)
  | .nextMore =>
    if editor.isLast then (.stopped, editor)
    else proceed (editor.emitPending.fetchLine manner true)
  | .print => proceed (editor.emitBuffer manner)
  | .printFirst =>
    let ended : Bool := editor.buffer.ended || editor.buffer.text.contains '\n'
    proceed (editor.emitLine manner (firstLine editor.buffer.text) ended)
  | .quit status => (.stopped, { editor with status })
  | .quitSilently status => (.broken, { editor with status })
  | .readFile name =>
    proceed { editor with pending := editor.pending ++ (manner.content name).toList }
  | .readLine name =>
    let count := ((editor.taken.find? (·.1 = name)).map (·.2)).getD 0
    match (fileLines ((manner.content name).getD []))[count]? with
    | some line =>
      let line := if line.getLast? = some '\n' then line else line ++ ['\n']
      proceed { editor with
        pending := editor.pending ++ [line], taken := (name, count + 1) :: editor.taken }
    | none => proceed editor
  | .write name => proceed (editor.writeTo manner name editor.buffer.text)
  | .writeFirst name => proceed (editor.writeTo manner name (firstLine editor.buffer.text))
  | .substitute substitution =>
    match editor.expression substitution.sought with
    | none => (.broken, { editor with broken := true })
    | some sought =>
      let editor := { editor with lastSought := some sought }
      match substituted substitution sought editor.buffer.text with
      | none => proceed editor
      | some text =>
        let editor := { editor with buffer := { editor.buffer with text }, replaced := true }
        let editor := if substitution.prints then editor.emitBuffer manner else editor
        match substitution.file with
        | some name => proceed (editor.writeTo manner name text)
        | none => proceed editor
  | .mapCharacters pairs =>
    let mapped (c : Char) : Char := ((pairs.find? (·.1 = c)).map (·.2)).getD c
    let text := editor.buffer.text.map mapped
    proceed { editor with buffer := { editor.buffer with text } }

def follow (manner : Manner) (script : Script) :
    (steps : Nat) → Script → Editor → Outcome × Nat × Editor
  | 0, _, editor => (.broken, 0, editor)
  | steps + 1, [], editor => (.finished, steps, editor)
  | steps + 1, instruction :: rest, editor =>
    let (selected, editor) := editor.selects instruction
    if editor.broken then (.broken, steps, editor)
    else if selected then
      match perform manner script instruction rest editor with
      | (.proceed rest, editor) => follow manner script steps rest editor
      | (outcome, editor) => (outcome, steps, editor)
    else match instruction.action with
      | .opening => follow manner script steps (Script.behindBlock 0 rest) editor
      | _ => follow manner script steps rest editor

/-- Edits all lines; `fresh` unless there is still something in the buffer. -/
def editLines (manner : Manner) (script : Script) :
    (lines steps : Nat) → (fresh : Bool) → Editor → Bool × Editor
  | 0, _, _, editor => (true, editor)
  | lines + 1, steps, fresh, editor =>
    if fresh && editor.isLast then (false, editor)
    else
      let editor := if fresh then editor.fetchLine manner false else editor
      match follow manner script steps script editor with
      | (.finished, steps, editor) =>
        editLines manner script lines steps true (editor.finishLine manner)
      | (.restarted, steps, editor) =>
        editLines manner script lines steps false editor.emitPending
      | (.stopped, _, editor) => (true, editor.finishLine manner)
      | (.broken, _, editor) => (true, editor)
      | (_, steps, editor) => editLines manner script lines steps true editor.emitPending

def maxSteps : Nat := 1000000

/-- Edits all lines of an editor's input, and tells whether the script has ended it. -/
def Editor.run (manner : Manner) (script : Script) (editor : Editor) : Bool × Editor :=
  editLines manner script maxSteps maxSteps true editor

end ArtifactRelease.Shell.Sed
