import ArtifactRelease.Shell.Machine

/-!
# Expanding words

A word becomes a row of marks: its characters, with what their quoting allows, and the borders
between fields.  Characters that come from parameters, arithmetic and scripts outside of quotes are
split at the field separators; names that fit a pattern take its place.
-/

namespace ArtifactRelease.Shell

inductive Mark where
  /-- A character; a quoted one has no meaning in patterns. -/
  | char (c : Char) (quoted splits : Bool)
  /-- Something is here, even if it is empty. -/
  | presence
  /-- A field ends here. -/
  | border
  /-- A part begins that came from a parameter, arithmetic or a script: either it is split, or it is
  the list of the positional parameters in quotes. -/
  | start (isList : Bool)
  deriving Repr, DecidableEq

namespace Mark

def quoted (text : List Char) : List Mark :=
  presence :: text.map fun c => char c true false

def plain (splits : Bool) (text : List Char) : List Mark :=
  text.map fun c => char c false splits

/-- The marks of a text that took the place of something, in quotes or not. -/
def replacing (isQuoted : Bool) (text : List Char) : List Mark :=
  if isQuoted then quoted text else start false :: plain true text

def list : List (List Char) → List Mark
  | [] => []
  | [text] => quoted text
  | text :: later => quoted text ++ border :: list later

def char? : Mark → Option Char
  | char c _ _ => some c
  | _ => none

def pattern (marks : List Mark) : List Glob.Mark :=
  Glob.resolve (marks.filterMap fun
    | char c quoted _ => some (c, quoted)
    | _ => none)

end Mark

def defaultSeparators : String := " \t\n"

/-- Fields under construction: complete ones last first, and the current one if it has begun. -/
structure Fields where
  complete : List (List Glob.Mark) := []
  current : Option (List Glob.Mark) := none
  /-- A blank has ended the last field, so that one separator more ends nothing. -/
  blanked : Bool := false
  /-- Whether the last part was a list in quotes. -/
  inList : Bool := false
  /-- Whether the part before that was a list in quotes, behind which blanks count one by one. -/
  afterList : Bool := false

namespace Fields

def close (fields : Fields) : Fields :=
  match fields.current with
  | some field =>
    { fields with complete := field.reverse :: fields.complete, current := none, blanked := false }
  | none => { fields with blanked := false }

def step (separators : List Char) (fields : Fields) : Mark → Fields
  | .border => fields.close
  | .presence => { fields with current := some (fields.current.getD []), blanked := false }
  | .start isList => { fields with blanked := false, inList := isList, afterList := fields.inList }
  | .char c quoted splits =>
    if splits && (c = Glob.gap || c ∈ separators) then
      if c ∈ [' ', '\t', '\n', Glob.gap] && !fields.afterList then
        match fields.current with
        | some _ => { fields.close with blanked := true }
        | none => fields
      else match fields.current with
        | some _ => fields.close
        | none =>
          if fields.blanked then { fields with blanked := false }
          else { fields with complete := [] :: fields.complete }
    else
      { fields with current := some ((c, quoted) :: fields.current.getD []), blanked := false }

def ofMarks (separators : List Char) (marks : List Mark) : List (List Glob.Mark) :=
  (marks.foldl (step separators) {}).close.complete.reverse

end Fields

def variableInteger (text : String) : Except Arithmetic.Problem Int :=
  let blank (c : Char) : Bool := c ∈ [' ', '\t', '\n']
  let trimmed := text.toList.dropWhile blank
  let (negative, digits) := match trimmed with
    | '-' :: digits => (true, digits)
    | '+' :: digits => (false, digits)
    | digits => (false, digits)
  if trimmed.isEmpty then .ok 0
  else if !digits.head?.any Char.isDigit then .error (.noNumber text)
  else
    let (magnitude, rest) := Arithmetic.readNumber digits
    let value : Int := if negative then -(magnitude : Int) else magnitude
    if !rest.all blank || value ≠ Arithmetic.wrap value then .error (.noNumber text)
    else .ok value

namespace Run

/-- What stands between the positional parameters where they are taken together.  Where fields are
made, they stay apart, unless they are joined by quotes. -/
def listSeparator (inFields quoted : Bool) (name : String) : Run (List Char) := do
  match ← value? "IFS" with
  | none => return [if inFields && quoted && name = "@" then Glob.gap else ' ']
  | some separators =>
    return if inFields && (!quoted || name = "@") then [Glob.gap] else separators.toList.take 1

/-- The value of a parameter, unless it is not set. -/
def parameter? (inFields quoted : Bool) (name : String) : Run (Option String) := do
  let process ← process
  match name with
  | "?" => return some (toString process.status)
  | "#" => return some (toString process.positionals.length)
  | "$" => return some (toString process.scriptNumber)
  | "!" => return process.lastJob.map toString
  | "-" => return some (String.ofList (process.options.filter Char.isAlpha))
  | "0" => return some process.name
  | "@" | "*" =>
    let separator ← listSeparator inFields quoted name
    return some ((String.ofList separator).intercalate process.positionals)
  | _ =>
    match name.toNat? with
    | some number => return process.positionals[number - 1]?
    | none => value? name

/-- Makes the reading of options go on at the argument with a number. -/
def setOptionIndex (value : String) : Run Unit := do
  match variableInteger value with
  | .ok index =>
    if index < 0 || value.isEmpty then abort s!"Illegal number: {value}"
    change fun process => { process with optionPosition := ⟨max 1 index.toNat, none⟩ }
  | .error _ => abort s!"Illegal number: {value}"

/-- Gives a variable a value, unless it is fixed. -/
def assign (name value : String) : Run Unit := do
  let old := (← binding? name).getD {}
  if old.fixed then abort s!"{name}: is read only"
  else
    if name = "OPTIND" then setOptionIndex value
    if name = "PATH" then change fun process => { process with found := [] }
    let exported := old.exported || (← hasOption 'a')
    setBinding name (some { old with value := some value, exported })

/-- Gives a variable a value that is handed on to other programs. -/
def assignExported (name value : String) : Run Unit := do
  assign name value
  setBinding name ((← binding? name).map fun binding => { binding with exported := true })

def evaluate (text : List Char) : Run (List Char) := do
  let bindings := (← process).bindings
  let bound (name : String) : Option Binding := (bindings.find? (·.1 = name)).map (·.2)
  let known : Arithmetic.Variables :=
    { held := fun name => variableInteger (((bound name).bind (·.value)).getD "")
      isFixed := fun name => (bound name).any (·.fixed) }
  let (result, assigned) := Arithmetic.run known text
  assigned.reverse.forM fun (name, value) => assign name (toString value)
  match result with
  | .ok value => return (toString value).toList
  | .error (.malformed reason) =>
    abort s!"arithmetic expression: {reason}: \"{String.ofList text}\""
  | .error (.noNumber text) => abort s!"Illegal number: {text}"
  | .error (.fixed name) => abort s!"{name}: is read only"

def valueMarks (name : String) (value : List Char) (quoted : Bool) : Run (List Mark) := do
  if quoted && name = "@" then
    return if (← process).positionals.isEmpty then []
      else .start true :: Mark.list (Text.splitOn Glob.gap value)
  else return Mark.replacing quoted value

end Run

def markedText (marks : List Mark) : List Char :=
  marks.filterMap Mark.char?

/-- Runs a script inside of a word and gives its output. -/
abbrev Substitute := Command → Run (List Char)

mutual

/-- Expands a piece of a word; `inFields` if the word is made into fields, and `splits` if its own
text is split as well. -/
def expandSegment (substitute : Substitute) (inFields splits : Bool) : Segment → Run (List Mark)
  | .text content true => return Mark.quoted content
  | .text content false =>
    return if splits then Mark.replacing false content else Mark.plain false content
  | .home user => do
    match homeOf? (← Run.value? "HOME") (String.ofList user) with
    | some directory => return directory.toList.map (Mark.char · true false)
    | none => return Mark.plain splits ('~' :: user)
  | .substitution script quoted => do return Mark.replacing quoted (← substitute script)
  | .arithmetic expression quoted => do
    let text := markedText (← expandSegments substitute false false expression)
    return Mark.replacing quoted (← Run.evaluate text)
  | .parameter name adjustment blankIsMissing operand quoted => do
    let value ← Run.parameter? inFields quoted name
    let present := match value with
      | some value => !(blankIsMissing && value.isEmpty)
      | none => false
    let isList := name = "@" || name = "*"
    let unset : Run Unit := do
      if value.isNone && !isList && (← Run.hasOption 'u') then
        Run.abort s!"{name}: parameter not set"
    let text := (value.getD "").toList
    let given : Run (List Char) := do
      return markedText (← expandSegments substitute false false operand)
    -- a pattern is not worked out where there is nothing to compare it with
    let shortened (shorten : List Glob.Mark → List Char → List Char) : Run (List Mark) := do
      unset
      if value.isNone then Run.valueMarks name [] quoted
      else
        let marks ← expandSegments substitute false false operand
        Run.valueMarks name (shorten (Mark.pattern marks) text) quoted
    match adjustment with
    | .plain =>
      unset
      if value.isNone && !quoted then return [] else Run.valueMarks name text quoted
    | .length =>
      unset
      return Mark.replacing quoted (toString text.length).toList
    | .fallback =>
      if present then Run.valueMarks name text quoted
      else expandSegments substitute inFields (!quoted) operand
    | .alternative =>
      if present then expandSegments substitute inFields (!quoted) operand
      else return []
    | .assigned =>
      if present then Run.valueMarks name text quoted
      else
        let given ← given
        if !isNameStart (name.toList.headD ' ') then Run.abort s!"{name}: bad variable name"
        Run.assign name (String.ofList given)
        Run.valueMarks name given quoted
    | .required =>
      if present then Run.valueMarks name text quoted
      else
        let given := String.ofList (← given)
        let reason := if blankIsMissing then "parameter not set or null" else "parameter not set"
        Run.abort s!"{name}: {if operand.isEmpty then reason else given}"
    | .withoutStart longest => shortened (Glob.withoutStart · longest)
    | .withoutEnd longest => shortened (Glob.withoutEnd · longest)
    | .unknown => Run.abort "Bad substitution"

def expandSegments (substitute : Substitute) (inFields splits : Bool) :
    List Segment → Run (List Mark)
  | [] => return []
  | segment :: later => do
    let first ← expandSegment substitute inFields splits segment
    return first ++ (← expandSegments substitute inFields splits later)

end

/-- The marks of a word that is not made into fields; in a value that is `assigned` home directories
can stand behind colons. -/
def expandMarks (substitute : Substitute) (assigned : Bool) (word : Word) : Run (List Mark) :=
  expandSegments substitute false false (withHomes assigned true word)

/-- The text that a word expands to where no fields are split off. -/
def expandText (substitute : Substitute) (word : Word) : Run String := do
  return String.ofList (markedText (← expandMarks substitute false word))

def expandValue (substitute : Substitute) (word : Word) : Run String := do
  return String.ofList (markedText (← expandMarks substitute true word))

def expandPattern (substitute : Substitute) (word : Word) : Run (List Glob.Mark) := do
  return Mark.pattern (← expandMarks substitute false word)

def splitPattern (pattern : List Glob.Mark) : List (List Glob.Mark) :=
  pattern.foldr (fun mark pieces =>
    if mark.1 = '/' then [] :: pieces
    else match pieces with
      | [] => [[mark]]
      | piece :: later => (mark :: piece) :: later) [[]]

/-- The paths below a directory that fit a pattern, with the text in front of them. -/
def matchingPaths (system : FileSystem) :
    List (List Glob.Mark) → Path → String → List String
  | [], _, shown => [shown]
  | piece :: later, directory, shown =>
    let name := String.ofList (piece.map (·.1))
    let glue (name : String) : String := if shown.isEmpty then name else s!"{shown}/{name}"
    let names :=
      if Glob.isPattern piece then
        let hidden : Bool := piece.head?.any (·.1 = '.')
        ((if hidden then [".", ".."] else []) ++ system.names directory).filter fun name =>
          Glob.fits piece name.toList && (hidden || name.toList.head? ≠ some '.')
      else [name]
    names.flatMap fun name =>
      match system.locate directory name with
      | .ok path =>
        if system.place path = .missing then [] else matchingPaths system later path (glue name)
      | .error _ => []

/-- The names that fit a field, if it is a pattern and there are any; else the field itself. -/
def expandField (field : List Glob.Mark) : Run (List String) := do
  let plain := String.ofList (field.map (·.1))
  let pattern := Glob.resolve field
  if !Glob.isPattern pattern || (← Run.hasOption 'f') then return [plain]
  let machine ← get
  let found := match splitPattern pattern with
    | [] :: pieces =>
      (matchingPaths machine.world.system pieces [] "").map fun path => "/" ++ path
    | pieces => matchingPaths machine.world.system pieces machine.process.directory ""
  return if found.isEmpty then [plain] else found

def expandWord (substitute : Substitute) (word : Word) : Run (List String) := do
  let marks ← expandSegments substitute true false (withHomes false true word)
  let separators := ((← Run.value? "IFS").getD defaultSeparators).toList
  let fields ← (Fields.ofMarks separators marks).mapM expandField
  return fields.flatten

def expandWords (substitute : Substitute) (words : List Word) : Run (List String) := do
  return (← words.mapM (expandWord substitute)).flatten

end ArtifactRelease.Shell
