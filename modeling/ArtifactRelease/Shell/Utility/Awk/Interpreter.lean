import ArtifactRelease.Shell.Utility.Awk.Machine

/-!
# Running record scripts

Expressions are worked out and statements done with a bound on the depth and on the number of
rounds of loops.
-/

namespace ArtifactRelease.Shell.Awk

open Work

def calculate : Arithmetic → Float → Float → Float
  | .add, left, right => left + right
  | .subtract, left, right => left - right
  | .multiply, left, right => left * right
  | .divide, left, right => left / right
  | .remainder, left, right => remainder left right
  | .power, left, right => Float.pow left right

/-- Compares numbers by value, and everything else as texts. -/
def compare (comparison : Comparison) (left right : Value) (leftText rightText : String) : Bool :=
  if left.isNumeric && right.isNumeric then
    let (first, second) := (left.toNumber, right.toNumber)
    match comparison with
    | .less => first < second
    | .lessOrEqual => first ≤ second
    | .equal => first == second
    | .unequal => first != second
    | .greater => second < first
    | .greaterOrEqual => second ≤ first
  else match comparison with
    | .less => textBefore leftText rightText
    | .lessOrEqual => !textBefore rightText leftText
    | .equal => leftText = rightText
    | .unequal => leftText ≠ rightText
    | .greater => textBefore rightText leftText
    | .greaterOrEqual => !textBefore leftText rightText

/-- A part of a text, by a position from one and a length, both cut to whole numbers.  What lies in
front of the text counts for the length. -/
def partOf (text : String) (start : Float) (length : Option Float) : String :=
  let characters := text.toList
  let first := truncated (floatingOf start)
  let length : Int := match length with
    | none => characters.length + first.natAbs + 1
    | some length => if length.isInf then characters.length else truncated (floatingOf length)
  let taken := length + min 0 (first - 1)
  String.ofList ((characters.drop (first - 1).toNat).take taken.toNat)

/-- What is put in the place of a fit: an ampersand stands for it, unless a backslash is in front.
-/
def replacement (fitted : List Char) : List Char → List Char
  | [] => []
  | '\\' :: '\\' :: '&' :: rest => '\\' :: fitted ++ replacement fitted rest
  | '\\' :: '&' :: rest => '&' :: replacement fitted rest
  | '&' :: rest => fitted ++ replacement fitted rest
  | c :: rest => c :: replacement fitted rest

/-- A text with the first fit replaced or all of them, and how many there were. -/
def replaced (regular : Regular) (all : Bool) (written text : List Char) : List Char × Nat :=
  let fits := regular.findAll {} text
  let fits := if all then fits else fits.take 1
  let (pieces, stop) := fits.foldl (fun (pieces, stop) found =>
    (replacement (found.text text 0) written
        :: (text.drop stop).take (found.start - stop) :: pieces,
      found.start + found.length)) (([] : List (List Char)), 0)
  ((text.drop stop :: pieces).reverse.flatten, fits.length)

/-- The first position of a text in another one, from one; zero if there is none. -/
def positionOf (sought : List Char) : (position : Nat) → List Char → Nat
  | position, [] => if sought.isEmpty then position else 0
  | position, c :: rest =>
    if sought.isPrefixOf (c :: rest) then position else positionOf sought (position + 1) rest

def numeric? : String → Option (Float → Float)
  | "sin" => some Float.sin
  | "cos" => some Float.cos
  | "exp" => some Float.exp
  | "log" => some Float.log
  | "sqrt" => some Float.sqrt
  | "int" => some fun value => if value < 0.0 then Float.ceil value else Float.floor value
  | _ => none

/-- The place in the input, for complaints. -/
def inputPlace : Work String := do
  let file ← globalText "FILENAME"
  let inFile := numberText "%.6g" (← globalValue "FNR").toNumber
  let inAll := numberText "%.6g" (← globalValue "NR").toNumber
  return s!"\tFILENAME=\"{file}\" FNR={inFile} NR={inAll}"

/-- What a format makes of values; `name` is the function that it is for. -/
def format (name : String) (values : List Value) : Work (List Char) := do
  let template ← toText (values.headD .missing)
  match formatted (← numberFormat) (template.length + 1) template.toList (values.drop 1) with
  | (text, none) => return text
  | (text, some .tooFewArguments) =>
    if name = "printf" then writeOutput text
    let place ← inputPlace
    fail s!"run time error: not enough arguments passed to {name}(\"{template}\")\n{place}"

mutual

def regularIn : (fuel : Nat) → Expression → Work Regular
  | 0, _ => throw .exhausted
  | fuel + 1, expression => do
    match expression with
    | .regular regular => return regular
    | .grouped inner => regularIn fuel inner
    | _ => regularOf (← toText (← eval fuel expression))

/-- The index of an element, by the values for it. -/
def indexIn : (fuel : Nat) → List Expression → Work String
  | 0, _ => throw .exhausted
  | fuel + 1, indices => do
    let texts ← indices.mapM fun index => do toText (← eval fuel index)
    return (← globalText "SUBSEP").intercalate texts

def assign : (fuel : Nat) → Expression → Value → Work Unit
  | 0, _, _ => throw .exhausted
  | fuel + 1, target, value => do
    match target with
    | .variable name => setVariable name value
    | .element name indices => do
      let index ← indexIn fuel indices
      setElement (← tableNumber name) index value
    | .field index => do
      let index := (← eval fuel index).toNumber
      setField (truncated (floatingOf index)).toNat value
    | _ => return ()

def eval : (fuel : Nat) → Expression → Work Value
  | 0, _ => throw .exhausted
  | fuel + 1, expression => do
    match expression with
    | .number value => return .number value
    | .text content => return .text content
    | .regular regular =>
      let record ← toText (← get).record
      return .ofBool (regular.find? {} record.toList).isSome
    | .variable name => variableValue name
    | .element name indices =>
      let index ← indexIn fuel indices
      element (← tableNumber name) index
    | .field index =>
      let number := truncated (floatingOf (← eval fuel index).toNumber)
      if number < 0 then
        let place ← inputPlace
        fail s!"run time error: negative field index ${number}\n{place}"
      field number.toNat
    | .assign target operator value =>
      let value ← eval fuel value
      let value ← match operator with
        | none => pure value
        | some operator =>
          let old ← eval fuel target
          pure (.number (calculate operator old.toNumber value.toNumber))
      assign fuel target value
      return value
    | .step target up first =>
      let old := (← eval fuel target).toNumber
      let new := if up then old + 1.0 else old - 1.0
      assign fuel target (.number new)
      return .number (if first then new else old)
    | .signed sign operand =>
      let value ← eval fuel operand
      match sign with
      | .plus => return .number value.toNumber
      | .minus => return .number (-value.toNumber)
      | .negation => return .ofBool !value.holds
    | .arithmetic operator left right =>
      let left ← eval fuel left
      let right ← eval fuel right
      return .number (calculate operator left.toNumber right.toNumber)
    | .join left right =>
      let left ← toText (← eval fuel left)
      let right ← toText (← eval fuel right)
      return .text (left ++ right)
    | .compare comparison left right =>
      let left ← eval fuel left
      let right ← eval fuel right
      return .ofBool (compare comparison left right (← toText left) (← toText right))
    | .fits negated text regular =>
      let text ← toText (← eval fuel text)
      let regular ← regularIn fuel regular
      return .ofBool ((regular.find? {} text.toList).isSome != negated)
    | .both left right =>
      if !(← eval fuel left).holds then return .ofBool false
      return .ofBool (← eval fuel right).holds
    | .either left right =>
      if (← eval fuel left).holds then return .ofBool true
      return .ofBool (← eval fuel right).holds
    | .choose condition yes no =>
      if (← eval fuel condition).holds then eval fuel yes else eval fuel no
    | .member indices name =>
      let index ← indexIn fuel indices
      let table ← table (← tableNumber name)
      return .ofBool (table.contains index)
    | .call name arguments => call fuel name arguments
    | .builtin name arguments => callBuiltin fuel name arguments
    | .nextRecord target file => readRecord fuel target file
    | .grouped inner => eval fuel inner

/-- Reads a record on request; gives one, or zero at the end, or minus one if nothing can be
read. -/
def readRecord : (fuel : Nat) → Option Expression → Option Expression → Work Value
  | 0, _, _ => throw .exhausted
  | fuel + 1, target, file => do
    let store (record : String) : Work Value := do
      match target with
      | some target => assign fuel target (.input record)
      | none => setRecord (.input record)
      return .number 1.0
    match file with
    | none =>
      match ← nextRecord ((← get).arguments.length + 3) with
      | some record => store record
      | none => return .number 0.0
    | some file =>
      let name ← toText (← eval fuel file)
      let machine ← get
      let text : Except ReadFault (List Char) := match machine.readers.find? (·.1 = name) with
        | some (_, text) => .ok text
        | none =>
          let written := (machine.written.filter (·.1 = name)).reverse.flatMap (·.2)
          if written.isEmpty then machine.content name else .ok written
      match text with
      | .error _ => return .number (-1.0)
      | .ok text =>
        let keep (rest : List Char) : Work Unit :=
          modify fun machine => { machine with
            readers := (name, rest) :: machine.readers.filter (·.1 ≠ name) }
        match ← takeRecord (← globalText "RS") text with
        | some (record, rest) =>
          keep rest
          if target.isNone then count "NR"
          store record
        | none =>
          keep []
          return .number 0.0

/-- Calls a function of the script.  A variable is handed over with its table. -/
def call : (fuel : Nat) → String → List Expression → Work Value
  | 0, _, _ => throw .exhausted
  | fuel + 1, name, arguments => do
    match (← get).functions.find? (·.name = name) with
    | none => fail s!"function {name} never defined"
    | some function =>
      let slots ← arguments.mapM fun argument => do
        let table ← match argument with
          | .variable name => tableNumber name
          | _ => newTable
        return ({ value := ← eval fuel argument, table } : Slot)
      let missing := function.parameters.drop slots.length
      let fresh ← missing.mapM fun _ => do return ({ table := ← newTable } : Slot)
      let outer := (← get).locals
      modify fun machine => { machine with
        locals := List.zip function.parameters (slots ++ fresh) }
      let result ← tryCatch (do
          runAll fuel function.body
          return Value.missing) fun interruption => do
        match interruption with
        | .give value => return value
        | other =>
          modify fun machine => { machine with locals := outer }
          throw other
      modify fun machine => { machine with locals := outer }
      return result

def callBuiltin : (fuel : Nat) → String → List Expression → Work Value
  | 0, _, _ => throw .exhausted
  | fuel + 1, name, arguments => do
    let number (index : Nat) : Work Float := do
      match arguments[index]? with
      | some argument => return (← eval fuel argument).toNumber
      | none => return 0.0
    let textAt (index : Nat) : Work String := do
      match arguments[index]? with
      | some argument => toText (← eval fuel argument)
      | none => return ""
    match numeric? name with
    | some f => return .number (f (← number 0))
    | none =>
    match name, arguments with
    | "length", [] => return .ofNat (← toText (← get).record).length
    | "length", [.variable measured] =>
      let table ← table (← tableNumber measured)
      if !table.isEmpty then return .ofNat table.size
      return .ofNat (← toText (← variableValue measured)).length
    | "length", _ => return .ofNat (← textAt 0).length
    | "substr", _ =>
      let text ← textAt 0
      let start ← number 1
      let length ← if arguments.length < 3 then pure none else some <$> number 2
      return .text (partOf text start length)
    | "index", _ =>
      let text ← textAt 0
      return .ofNat (positionOf (← textAt 1).toList 1 text.toList)
    | "split", text :: .variable name :: separator =>
      let text ← toText (← eval fuel text)
      let pieces ← match separator with
        | .regular regular :: _ =>
          pure (if text.isEmpty then []
            else (piecesAround regular text.toList).map String.ofList)
        | separator :: _ => split text (← toText (← eval fuel separator))
        | [] => split text (← globalText "FS")
      let number ← tableNumber name
      setTable number {}
      for (index, piece) in List.zip (List.range pieces.length) pieces do
        setElement number (toString (index + 1)) (.input piece)
      return .ofNat pieces.length
    | "sub", regular :: written :: target => substitute fuel false regular written target
    | "gsub", regular :: written :: target => substitute fuel true regular written target
    | "match", [text, regular] =>
      let text ← toText (← eval fuel text)
      let regular ← regularIn fuel regular
      let (start, length) : Float × Float := match regular.find? {} text.toList with
        | some found => (Float.ofNat (found.start + 1), Float.ofNat found.length)
        | none => (0.0, -1.0)
      setGlobal "RSTART" (.number start)
      setGlobal "RLENGTH" (.number length)
      return .number start
    | "sprintf", _ =>
      let values ← arguments.mapM (eval fuel)
      return .text (String.ofList (← format "sprintf" values))
    | "atan2", _ =>
      let y ← number 0
      return .number (Float.atan2 y (← number 1))
    | "tolower", _ => return .text (String.ofList ((← textAt 0).toList.map Char.toLower))
    | "toupper", _ => return .text (String.ofList ((← textAt 0).toList.map Char.toUpper))
    | "close", _ =>
      let file ← textAt 0
      let machine ← get
      let known := machine.readers.any (·.1 = file) || machine.opened.any (·.1 = file)
      set { machine with readers := machine.readers.filter (·.1 ≠ file) }
      return .number (if known then 0.0 else -1.0)
    | _, _ => return .number 0.0

/-- Replaces what an expression fits in a target, and gives how often that was. -/
def substitute : (fuel : Nat) → (all : Bool) → (regular written : Expression) →
    List Expression → Work Value
  | 0, _, _, _, _ => throw .exhausted
  | fuel + 1, all, regular, written, target => do
    let regular ← regularIn fuel regular
    let written ← toText (← eval fuel written)
    let target := target.headD (.field (.number 0.0))
    let text ← toText (← eval fuel target)
    let (changed, count) := replaced regular all written.toList text.toList
    if 0 < count then assign fuel target (.text (String.ofList changed))
    return .ofNat count

def run : (fuel : Nat) → Statement → Work Unit
  | 0, _ => throw .exhausted
  | fuel + 1, statement => do
    match statement with
    | .evaluate expression =>
      let _ ← eval fuel expression
    | .print arguments destination =>
      let ending ← globalText "ORS"
      let shown ← if arguments.isEmpty then toText (← get).record
        else do
          let values ← arguments.mapM (eval fuel)
          let numbers ← globalText "OFMT"
          pure ((← globalText "OFS").intercalate (values.map (·.toText numbers)))
      write fuel destination (shown ++ ending).toList
    | .printFormatted arguments destination =>
      let values ← arguments.mapM (eval fuel)
      write fuel destination (← format "printf" values)
    | .branch condition yes no =>
      if (← eval fuel condition).holds then runAll fuel yes else runAll fuel no
    | .loop condition body bodyFirst =>
      if bodyFirst then
        if ← round fuel body then repeatWhile fuel (some condition) body []
      else repeatWhile fuel (some condition) body []
    | .counted start condition step body =>
      runAll fuel start
      repeatWhile fuel condition body step
    | .each name table body =>
      let indices := (← Work.table (← tableNumber table)).indices
      runEach fuel name indices body
    | .block body => runAll fuel body
    | .delete table indices =>
      let number ← tableNumber table
      match indices with
      | none => setTable number {}
      | some indices =>
        let index ← indexIn fuel indices
        setTable number ((← Work.table number).erase index)
    | .next => throw .next
    | .nextFile => throw .nextFile
    | .leave status =>
      match status with
      | some status =>
        let status := truncated (floatingOf (← eval fuel status).toNumber)
        modify fun machine => { machine with status := (status % 256).toNat }
      | none => pure ()
      throw .leave
    | .give value =>
      match value with
      | some value => throw (.give (← eval fuel value))
      | none => throw (.give .missing)
    | .stop => throw .stop
    | .proceed => throw .proceed

def write : (fuel : Nat) → Destination → List Char → Work Unit
  | 0, _, _ => throw .exhausted
  | fuel + 1, destination, text => do
    match destination with
    | .output => writeOutput text
    | .file name appends => writeFile (← toText (← eval fuel name)) appends text

def runAll : (fuel : Nat) → List Statement → Work Unit
  | 0, _ => throw .exhausted
  | _, [] => return ()
  | fuel + 1, statement :: later => do
    run fuel statement
    runAll fuel later

/-- One round of a loop; tells whether the loop goes on. -/
def round : (fuel : Nat) → List Statement → Work Bool
  | 0, _ => throw .exhausted
  | fuel + 1, body =>
    tryCatch (do
      runAll fuel body
      return true) fun interruption =>
        match interruption with
        | .stop => return false
        | .proceed => return true
        | other => throw other

def repeatWhile : (fuel : Nat) → Option Expression → (body step : List Statement) → Work Unit
  | 0, _, _, _ => throw .exhausted
  | fuel + 1, condition, body, step => do
    let holds ← match condition with
      | some condition => do pure (← eval fuel condition).holds
      | none => pure true
    if holds then
      if ← round fuel body then
        runAll fuel step
        repeatWhile fuel condition body step

def runEach : (fuel : Nat) → String → List String → List Statement → Work Unit
  | 0, _, _, _ => throw .exhausted
  | _, _, [], _ => return ()
  | fuel + 1, name, index :: later, body => do
    setVariable name (.input index)
    if ← round fuel body then runEach fuel name later body

end

/-! ## Rules -/

def maxFuel : Nat := 1000000

/-- Whether a rule is for the current record; rules are remembered by their positions. -/
def applies (index : Nat) : Pattern → Work Bool
  | .first | .last => return false
  | .always => return true
  | .when condition => return (← eval maxFuel condition).holds
  | .range first last => do
    let begun := (← get).inRange.contains index
    if !begun && !(← eval maxFuel first).holds then return false
    let ends := (← eval maxFuel last).holds
    modify fun machine =>
      let others := machine.inRange.filter (· ≠ index)
      { machine with inRange := if ends then others else index :: others }
    return true

def runBody (body : Option (List Statement)) : Work Unit :=
  match body with
  | some statements => runAll maxFuel statements
  | none => run maxFuel (.print [] .output)

def applyRules : (index : Nat) → List Rule → Work Unit
  | _, [] => return ()
  | index, rule :: later => do
    if ← applies index rule.pattern then runBody rule.body
    applyRules (index + 1) later

def runRecords (rules : List Rule) : (fuel : Nat) → Work Unit
  | 0 => return ()
  | fuel + 1 => do
    match ← nextRecord ((← get).arguments.length + 3) with
    | none => return ()
    | some record =>
      setRecord (.input record)
      tryCatch (applyRules 0 rules) fun interruption =>
        match interruption with
        | .next => return ()
        | .nextFile => modify fun machine => { machine with source := none }
        | other => throw other
      runRecords rules fuel

/-- The bodies of the rules for the start or the end. -/
def Script.bodies (script : Script) (wanted : Pattern → Bool) : List (List Statement) :=
  script.rules.filterMap fun rule => if wanted rule.pattern then rule.body else none

def Pattern.isFirst : Pattern → Bool
  | first => true
  | _ => false

def Pattern.isLast : Pattern → Bool
  | last => true
  | _ => false

/-- Runs a script: the rules for the start, those for records, and those for the end, which are
followed even if the script is left before. -/
def Script.run (script : Script) : Work Unit := do
  let firsts := script.bodies Pattern.isFirst
  let lasts := script.bodies Pattern.isLast
  let rules := script.rules.filter fun rule => !rule.pattern.isFirst && !rule.pattern.isLast
  let untilLeft (work : Work Unit) : Work Unit :=
    tryCatch work fun interruption =>
      match interruption with
      | .leave => modify ({ · with left := true })
      | other => throw other
  untilLeft (do
    for body in firsts do runAll maxFuel body
    if !rules.isEmpty || !lasts.isEmpty then runRecords rules maxFuel)
  untilLeft (do
    for body in lasts do runAll maxFuel body)

end ArtifactRelease.Shell.Awk
