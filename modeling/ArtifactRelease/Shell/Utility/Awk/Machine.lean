import Std.Data.HashMap
import ArtifactRelease.Shell.Utility.Awk.Syntax
import ArtifactRelease.Shell.Utility.Awk.Value
import ArtifactRelease.Shell.Utility.Request
import ArtifactRelease.Text.Lines

/-!
# What a record script works on

Variables, tables, the current record with its fields, and the texts that are read and written.
Every variable has a table of its own besides its value, so that a function can be handed either.
-/

namespace ArtifactRelease.Shell.Awk

/-- The elements of a table, each with the time of its last use. -/
abbrev Table := Std.HashMap String (Value × Nat)

namespace Table

/-- The indices, in the order in which they are gone through: by places in a table that grows with
its size, and the latest used first where several share a place. -/
def indices (table : Table) : List String :=
  let places := growth 64 table.size 32
  let entries := table.toList.map fun (index, _, used) =>
    (index, filingNumber index % places, used)
  let before (first second : String × Nat × Nat) : Bool :=
    first.2.1 < second.2.1 || (first.2.1 = second.2.1 && second.2.2 ≤ first.2.2)
  (entries.mergeSort before).map (·.1)
where
  /-- How many places there are: on average at most two elements share one. -/
  growth (places size : Nat) : (fuel : Nat) → Nat
    | 0 => places
    | fuel + 1 => if 2 * places < size then growth (2 * places) size fuel else places

end Table

/-- A variable of a function: its value, and the number of its table. -/
structure Slot where
  value : Value := .missing
  table : Nat

inductive Interruption where
  | next
  | nextFile
  | leave
  | give (value : Value)
  | stop
  | proceed
  | failed (message : String)
  /-- The number of steps is used up. -/
  | exhausted

structure Machine where
  functions : List Function := []
  globals : Std.HashMap String Value := {}
  /-- The numbers of the tables of global variables. -/
  tableNumbers : Std.HashMap String Nat := {}
  tables : Std.HashMap Nat Table := {}
  nextTable : Nat := 0
  /-- The variables of the function that is being called. -/
  locals : List (String × Slot) := []
  record : Value := .missing
  fields : Array Value := #[]
  /-- What is left of the current input, and the arguments behind it. -/
  source : Option (List Char) := none
  arguments : List String := []
  /-- Whether an argument was a file. -/
  readAny : Bool := false
  /-- Files that are read by name, with what is left of them. -/
  readers : List (String × List Char) := []
  /-- The content of files that can be read, or why they cannot; a hyphen is the input. -/
  content : String → Except ReadFault (List Char)
  output : List (List Char) := []
  errors : List (List Char) := []
  /-- Files that are written to, with what was written, the latest first. -/
  written : List (String × List Char) := []
  /-- Files that were opened for writing, and whether what they held is kept. -/
  opened : List (String × Bool) := []
  /-- The rules whose range is being passed. -/
  inRange : List Nat := []
  clock : Nat := 0
  status : Nat := 0
  /-- Whether the rules were left before the end of the input. -/
  left : Bool := false

abbrev Work := ExceptT Interruption (StateM Machine)

namespace Work

def fail {α : Type} (message : String) : Work α := throw (.failed message)

/-! ## Variables -/

def globalValue (name : String) : Work Value := do
  return (← get).globals.getD name .missing

def globalText (name : String) : Work String := do
  return (← globalValue name).toText "%.6g"

def setGlobal (name : String) (value : Value) : Work Unit :=
  modify fun machine => { machine with globals := machine.globals.insert name value }

def newTable : Work Nat := do
  let number := (← get).nextTable
  modify fun machine => { machine with nextTable := number + 1 }
  return number

def tableNumber (name : String) : Work Nat := do
  let machine ← get
  match machine.locals.find? (·.1 = name) with
  | some (_, slot) => return slot.table
  | none =>
    match machine.tableNumbers[name]? with
    | some number => return number
    | none =>
      let number ← newTable
      modify fun machine =>
        { machine with tableNumbers := machine.tableNumbers.insert name number }
      return number

def table (number : Nat) : Work Table := do
  return (← get).tables.getD number {}

def setTable (number : Nat) (table : Table) : Work Unit :=
  modify fun machine => { machine with tables := machine.tables.insert number table }

/-- The next time, by which the use of elements is ordered. -/
def tick : Work Nat := do
  let clock := (← get).clock
  modify fun machine => { machine with clock := clock + 1 }
  return clock

/-- An element of a table, which is there from then on. -/
def element (number : Nat) (index : String) : Work Value := do
  let value := (((← table number)[index]?).map (·.1)).getD .missing
  let time ← tick
  setTable number ((← table number).insert index (value, time))
  return value

def setElement (number : Nat) (index : String) (value : Value) : Work Unit := do
  let time ← tick
  setTable number ((← table number).insert index (value, time))

def numberFormat : Work String := globalText "CONVFMT"

def toText (value : Value) : Work String := do
  match value with
  | .number _ => return value.toText (← numberFormat)
  | _ => return value.toText ""

/-! ## Expressions to search for -/

def regularOf (text : String) : Work Regular := do
  match Regular.parse { extended := true, escapesInBrackets := true } text.toList with
  | .ok regular => return regular
  | .error _ => fail s!"regular expression compile failed (missing operand)\n{text}"

/-! ## Fields -/

/-- The pieces of a text between the places that an expression fits. -/
def piecesAround (regular : Regular) (text : List Char) : List (List Char) :=
  let fits := (regular.findAll {} text).filter (0 < ·.length)
  let (pieces, stop) := fits.foldl (fun (pieces, stop) found =>
    ((text.drop stop).take (found.start - stop) :: pieces, found.start + found.length))
    (([] : List (List Char)), 0)
  (text.drop stop :: pieces).reverse

def words (text : List Char) : List (List Char) :=
  let isBlank (c : Char) : Bool := c = ' ' || c = '\t' || c = '\n'
  let pieces := text.foldr (fun c pieces =>
    if isBlank c then [] :: pieces
    else match pieces with
      | [] => [[c]]
      | piece :: later => (c :: piece) :: later) [[]]
  pieces.filter (!·.isEmpty)

/-- Splits a text by a separator: a blank stands for all blanks, nothing for every character, and
one other character for itself. -/
def split (text separator : String) : Work (List String) := do
  let characters := text.toList
  if characters.isEmpty then return []
  let pieces ← match separator.toList with
    | [' '] => pure (words characters)
    | [] => pure (characters.map ([·]))
    | ['\\'] => pure (Text.splitOn '\\' characters)
    | [c] => pure (Text.splitOn c characters)
    | _ => return (piecesAround (← regularOf separator) characters).map String.ofList
  return pieces.map String.ofList

/-- Makes a text the record, and splits it into fields. -/
def setRecord (value : Value) : Work Unit := do
  let text ← toText value
  let separator ← globalText "FS"
  let paragraphs := (← globalText "RS").isEmpty
  let fields ← if paragraphs && separator ≠ " " then
      -- lines end fields too
      let lines := Text.pieces '\n' text
      List.flatten <$> lines.mapM (split · separator)
    else split text separator
  modify fun machine => { machine with record := value, fields := (fields.map Value.input).toArray }

def rebuildRecord : Work Unit := do
  let texts ← (← get).fields.toList.mapM toText
  let record := (← globalText "OFS").intercalate texts
  modify fun machine => { machine with record := .input record }

def field (index : Nat) : Work Value := do
  let machine ← get
  if index = 0 then return machine.record
  return machine.fields.getD (index - 1) (.input "")

def resize (count : Nat) : Work Unit :=
  modify fun machine =>
    let kept := machine.fields.toList.take count
    let added : List Value := List.replicate (count - kept.length) (.input "")
    { machine with fields := (kept ++ added).toArray }

def setField (index : Nat) (value : Value) : Work Unit := do
  if index = 0 then setRecord value
  else
    if (← get).fields.size < index then resize index
    modify fun machine => { machine with fields := machine.fields.setIfInBounds (index - 1) value }
    rebuildRecord

def variableValue (name : String) : Work Value := do
  let machine ← get
  match machine.locals.find? (·.1 = name) with
  | some (_, slot) => return slot.value
  | none => if name = "NF" then return .ofNat machine.fields.size else globalValue name

def setVariable (name : String) (value : Value) : Work Unit := do
  let machine ← get
  if machine.locals.any (·.1 = name) then
    let changed (entry : String × Slot) : String × Slot :=
      if entry.1 = name then (name, { entry.2 with value }) else entry
    set { machine with locals := machine.locals.map changed }
  else if name = "NF" then
    resize (truncated (floatingOf value.toNumber)).toNat
    rebuildRecord
  else setGlobal name value

/-! ## Records -/

/-- The first record of a text, and what follows it. -/
def takeRecord (separator : String) (text : List Char) : Work (Option (String × List Char)) := do
  let upTo (c : Char) : String × List Char :=
    let record := text.takeWhile (· ≠ c)
    (String.ofList record, (text.drop record.length).drop 1)
  match separator.toList with
  | [] =>
    let text := text.dropWhile (· = '\n')
    if text.isEmpty then return none
    match (Regular.ofList [.one (.single '\n'), .repeated 1 none (.one (.single '\n'))]).find? {}
        text with
    | some found =>
      return some (String.ofList (text.take found.start), text.drop (found.start + found.length))
    | none => return some (String.ofList (Text.dropLastIf '\n' text), [])
  | [c] => return if text.isEmpty then none else some (upTo c)
  | _ =>
    if text.isEmpty then return none
    match (← regularOf separator).find? {} text with
    | some found =>
      if found.length = 0 then return some (String.ofList text, [])
      return some (String.ofList (text.take found.start), text.drop (found.start + found.length))
    | none => return some (String.ofList text, [])

/-- A name and a value, if an argument is an assignment. -/
def assignment? (argument : String) : Option (String × String) :=
  let name := argument.toList.takeWhile fun c => isNameStart c || c.isDigit
  match argument.toList.drop name.length with
  | '=' :: value =>
    if name.head?.any isNameStart then some (String.ofList name, String.ofList value) else none
  | _ => none

def unescaped (text : String) : String :=
  let closed := (text.toList.flatMap fun c => if c = '"' then ['\\', c] else [c]) ++ ['"']
  match readText (closed.length + 1) closed with
  | some (content, _) => String.ofList content
  | none => text

def assignText (name value : String) : Work Unit :=
  setVariable name (.input (unescaped value))

def openSource (name : String) : Work Unit := do
  match (← get).content name with
  | .ok text => modify fun machine => { machine with readAny := true, source := some text }
  | .error (.absent reason) => fail s!"cannot open \"{name}\" ({reason})"
  | .error (.broken reason) => fail s!"read error ({reason})"

/-- Opens the next file among the arguments; assignments are made on the way. -/
def openNext : (fuel : Nat) → Work Bool
  | 0 => return false
  | fuel + 1 => do
    let machine ← get
    match machine.arguments with
    | [] =>
      if machine.readAny then return false
      openSource "-"
      setGlobal "FILENAME" (.text "-")
      return true
    | argument :: arguments =>
      set { machine with arguments }
      match assignment? argument with
      | some (name, value) =>
        assignText name value
        openNext fuel
      | none =>
        if argument.isEmpty then openNext fuel
        else
          setGlobal "FILENAME" (.text argument)
          setGlobal "FNR" (.ofNat 0)
          openSource argument
          return true

def count (name : String) : Work Unit := do
  setGlobal name (.number ((← globalValue name).toNumber + 1.0))

def nextRecord : (fuel : Nat) → Work (Option String)
  | 0 => return none
  | fuel + 1 => do
    match (← get).source with
    | none =>
      if ← openNext ((← get).arguments.length + 2) then nextRecord fuel else return none
    | some text =>
      match ← takeRecord (← globalText "RS") text with
      | some (record, rest) =>
        modify fun machine => { machine with source := some rest }
        count "NR"
        count "FNR"
        return some record
      | none =>
        modify fun machine => { machine with source := none }
        nextRecord fuel

/-! ## Output -/

def writeOutput (text : List Char) : Work Unit :=
  modify fun machine => { machine with output := text :: machine.output }

def writeFile (name : String) (appends : Bool) (text : List Char) : Work Unit := do
  match name with
  | "/dev/stdout" | "-" => writeOutput text
  | "/dev/stderr" => modify fun machine => { machine with errors := text :: machine.errors }
  | _ =>
    modify fun machine =>
      { machine with
        opened := if machine.opened.any (·.1 = name) then machine.opened
          else machine.opened ++ [(name, appends)]
        written := (name, text) :: machine.written }

end Work

end ArtifactRelease.Shell.Awk
