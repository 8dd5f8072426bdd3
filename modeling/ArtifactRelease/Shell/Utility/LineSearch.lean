import ArtifactRelease.Shell.Regular.Reader
import ArtifactRelease.Shell.Utility.Request

/-!
# Lines that an expression fits

Lines of files are selected by whether one of some expressions fits in them, and shown with what was
asked for: their numbers, the names of their files, or the lines around them.
-/

namespace ArtifactRelease.Shell.Utility

namespace LineSearch

inductive Extent where
  | anywhere
  | words
  | lines
  deriving Repr, DecidableEq

structure Options where
  extended : Bool := false
  fixed : Bool := false
  ignoreCase : Bool := false
  extent : Extent := .anywhere
  inverted : Bool := false
  /-- What is shown of each file: its name, the number of lines, or nothing. -/
  counts : Bool := false
  listsFitting : Bool := false
  listsOthers : Bool := false
  quiet : Bool := false
  silent : Bool := false
  numbers : Bool := false
  offsets : Bool := false
  names : Option Bool := none
  onlyFits : Bool := false
  binary : Bool := false
  atMost : Option Nat := none
  before : Nat := 0
  behind : Nat := 0
  /-- Whether directories stand for the files below them. -/
  recursive : Bool := false
  patterns : List String := []
  patternFiles : List String := []

/-- The options that are spelled out, with their letters. -/
def longNames : List (String × Char) :=
  [("after-context", 'A'), ("basic-regexp", 'G'), ("before-context", 'B'), ("byte-offset", 'b'),
    ("context", 'C'), ("count", 'c'), ("extended-regexp", 'E'), ("file", 'f'),
    ("files-with-matches", 'l'), ("files-without-match", 'L'), ("fixed-strings", 'F'),
    ("ignore-case", 'i'), ("invert-match", 'v'), ("line-number", 'n'), ("line-regexp", 'x'),
    ("max-count", 'm'), ("no-filename", 'h'), ("no-messages", 's'), ("only-matching", 'o'),
    ("quiet", 'q'), ("recursive", 'r'), ("regexp", 'e'), ("silent", 'q'), ("text", 'a'),
    ("with-filename", 'H'), ("word-regexp", 'w')]

def known : OptionTable :=
  { flags := ['E', 'F', 'G', 'i', 'y', 'v', 'w', 'x', 'c', 'l', 'L', 'q', 's', 'n', 'b', 'H', 'h',
      'o', 'a', 'r', 'R']
    valued := ['e', 'f', 'm', 'A', 'B', 'C']
    names := longNames
    status := 2 }

/-- A hyphen with a number stands for that many lines around. -/
def spelledContext (argument : String) : String :=
  match argument.toList with
  | '-' :: digit :: digits =>
    if (digit :: digits).all Char.isDigit then String.ofList ('-' :: 'C' :: digit :: digits)
    else argument
  | _ => argument

def Options.add (options : Options) (letter : Char) (value : String) : Except String Options :=
  let context (set : Nat → Options) : Except String Options :=
    match number? value with
    | some count => .ok (set count)
    | none => .error s!"{value}: invalid context length argument"
  match letter with
  | 'E' => .ok { options with extended := true, fixed := false }
  | 'G' => .ok { options with extended := false, fixed := false }
  | 'F' => .ok { options with fixed := true }
  | 'i' | 'y' => .ok { options with ignoreCase := true }
  | 'v' => .ok { options with inverted := true }
  | 'w' => .ok { options with
      extent := if options.extent = .lines then .lines else .words }
  | 'x' => .ok { options with extent := .lines }
  | 'c' => .ok { options with counts := true }
  | 'l' => .ok { options with listsFitting := true, listsOthers := false }
  | 'L' => .ok { options with listsOthers := true, listsFitting := false }
  | 'q' => .ok { options with quiet := true }
  | 's' => .ok { options with silent := true }
  | 'n' => .ok { options with numbers := true }
  | 'b' => .ok { options with offsets := true }
  | 'H' => .ok { options with names := some true }
  | 'h' => .ok { options with names := some false }
  | 'o' => .ok { options with onlyFits := true }
  | 'a' => .ok { options with binary := true }
  | 'r' | 'R' => .ok { options with recursive := true }
  | 'e' => .ok { options with patterns := options.patterns ++ Text.pieces '\n' value }
  | 'f' => .ok { options with patternFiles := options.patternFiles ++ [value] }
  | 'm' =>
    match signed? value with
    | some count => .ok { options with atMost := if count < 0 then none else some count.toNat }
    | none => .error "invalid max count"
  | 'A' => context fun behind => { options with behind }
  | 'B' => context fun before => { options with before }
  | 'C' => context fun count => { options with before := count, behind := count }
  | _ => .ok options

/-- The expression of a pattern, with its surroundings. -/
def expression (options : Options) (pattern : String) : Except String Regular := do
  let inner ←
    if options.fixed then pure (Regular.literal options.ignoreCase pattern.toList)
    else
      let dialect : Regular.Dialect :=
        { extended := options.extended
          ignoreCase := options.ignoreCase
          refusesBareClasses := true }
      match Regular.parse dialect pattern.toList with
      | .ok regular => pure regular
      | .error fault => throw fault.message
  return match options.extent with
    | .anywhere => inner
    | .words => Regular.ofList [.edge .noWordBefore, inner, .edge .noWordBehind]
    | .lines => Regular.ofList [.edge .lineStart, inner, .edge .lineEnd]

structure Line where
  number : Nat
  /-- Where the line begins. -/
  offset : Nat
  text : List Char
  /-- The places that expressions fit. -/
  fits : List Regular.Found
  selected : Bool

/-- Of the places that expressions fit, those that do not overlap earlier or longer ones. -/
def apart (found : List Regular.Found) : List Regular.Found :=
  let before (first second : Regular.Found) : Bool :=
    first.start < second.start || (first.start = second.start && second.length ≤ first.length)
  ((found.mergeSort before).foldl (fun (kept, stop) found =>
    if found.start < stop then (kept, stop)
    else (found :: kept, found.start + found.length)) (([] : List Regular.Found), 0)).1.reverse

/-- The lines of a text without their ends. -/
def linesIn (text : List Char) : List (List Char) :=
  let lines := Text.splitOn '\n' text
  if lines.getLast? = some [] then lines.dropLast else lines

/-- The lines of a text, judged by expressions. -/
def judged (options : Options) (expressions : List Regular) (text : List Char) : List Line :=
  let manner : Regular.Manner := { ignoreCase := options.ignoreCase }
  let (judged, _) := (linesIn text).foldl (fun (judged, offset) text =>
    let fits :=
      if options.onlyFits && !options.inverted then
        apart (expressions.flatMap fun expression => expression.findAll manner text)
      else []
    let fitting := expressions.any fun expression => (expression.find? manner text).isSome
    let line : Line :=
      { number := judged.length + 1, offset, text, fits, selected := fitting != options.inverted }
    (line :: judged, offset + text.length + 1)) (([] : List Line), 0)
  judged.reverse

/-- The lines up to the last one that is still wanted, and those behind it for its sake. -/
def wanted (behind : Nat) : (count : Nat) → List Line → List Line
  | _, [] => []
  | 0, lines => (lines.take behind).map ({ · with selected := false })
  | count + 1, line :: later =>
    line :: wanted behind (if line.selected then count else count + 1) later

def considered (options : Options) (lines : List Line) : List Line :=
  match options.atMost with
  | none => lines
  | some 0 => []
  | some count => wanted options.behind count lines

/-- What stands in front of a line; a colon follows each part, or a hyphen if the line is there
only for its neighbours. -/
def label (options : Options) (name : Option String) (mark : Char) (number offset : Nat) :
    List Char :=
  let part (shown : Bool) (text : String) : List Char :=
    if shown then text.toList ++ [mark] else []
  (match name with
    | some name => name.toList ++ [mark]
    | none => []) ++ part options.numbers (toString number)
      ++ part options.offsets (toString offset)

/-- Whether a line is shown for the sake of a selected one. -/
def isNear (options : Options) (lines : List Line) (line : Line) : Bool :=
  lines.any fun other => other.selected
    && line.number ≤ other.number + options.behind && other.number ≤ line.number + options.before

def shownLines (options : Options) (name : Option String) (lines : List Line) : List Char :=
  let context : Bool := options.before ≠ 0 || options.behind ≠ 0
  let near := if context then lines.filter (isNear options lines) else lines.filter (·.selected)
  let entry (line : Line) : List Char :=
    if !options.onlyFits then
      label options name (if line.selected then ':' else '-') line.number line.offset
        ++ line.text ++ ['\n']
    else if !line.selected then []
    else (line.fits.filter (0 < ·.length)).flatMap fun found =>
      label options name ':' line.number (line.offset + found.start)
        ++ found.text line.text 0 ++ ['\n']
  (near.foldl (fun (shown, last) line =>
    let gap : Bool := context && last ≠ 0 && last + 1 ≠ line.number
    ((if gap then shown ++ ["--\n".toList] else shown) ++ [entry line], line.number))
    (([] : List (List Char)), 0)).1.flatten

def shownFile (options : Options) (name : String) (named : Bool) (lines : List Line) : List Char :=
  let fitting : Bool := lines.any (·.selected)
  let name? := if named then some name else none
  if options.quiet then []
  else if options.listsFitting then (if fitting then name.toList ++ ['\n'] else [])
  else if options.listsOthers then (if fitting then [] else name.toList ++ ['\n'])
  else if options.counts then
    let count := (lines.filter (·.selected)).length
    label { options with numbers := false, offsets := false } name? ':' 0 0
      ++ (toString count).toList ++ ['\n']
  else shownLines options name? lines

structure Result where
  shown : List Char := []
  fitting : Bool := false
  complaint : Option String := none
  /-- Whether the file could not be read. -/
  unread : Bool := false
  /-- Whether no more lines were needed, and how many bytes were left then. -/
  stopped : Bool := false
  left : Nat := 0

def searched (request : Request) (options : Options) (expressions : List Regular) (named : Bool)
    (file : String) : Result :=
  let name := if file = "-" then "(standard input)" else file
  let showsAll : Bool := !options.quiet && !options.listsFitting && !options.listsOthers
    && options.atMost.all (1 < ·)
  if showsAll && file ≠ "-" && (request.ownOutput? file).isSome then
    { complaint := some s!"{request.name}: {name}: input file is also the output", unread := true }
  else
  match request.content file with
  | .error (.absent reason) =>
    { complaint := some s!"{request.name}: {name}: {reason}", unread := true }
  | .error (.broken reason) =>
    { shown := if options.counts && reason = isDirectoryReason
        then shownFile options name named [] else []
      complaint := some s!"{request.name}: {name}: {reason}", unread := true }
  | .ok content =>
    let text := ofBytes content.excerpt
    let lines := considered options (judged options expressions text)
    let fitting := lines.any (·.selected)
    let selected := lines.filter (·.selected)
    let enough : Bool := options.atMost.any (· ≤ selected.length)
    let used := ((selected.getLast?.map fun line => line.offset + line.text.length + 1)).getD 0
    let stopped := enough || fitting && (options.quiet || options.listsFitting)
    let left := if enough then text.length - used else 0
    let showsLines : Bool := !options.quiet && !options.counts && !options.listsFitting
      && !options.listsOthers
    if showsLines && !options.binary && text.contains (Char.ofNat 0) then
      { fitting
        complaint :=
          if fitting then some s!"{request.name}: {name}: binary file matches" else none
        stopped, left }
    else { shown := shownFile options name named lines, fitting, stopped, left }

/-- The results up to the first fitting one, if no more are needed. -/
def untilFitting (quiet : Bool) : List Result → List Result
  | [] => []
  | result :: later =>
    if quiet && result.fitting then [result] else result :: untilFitting quiet later

/-- The files that a name stands for where directories stand for the files below them, and whether
it is a directory. -/
def filesBelow (request : Request) : (fuel : Nat) → (name : String) → List String × Bool
  | 0, name => ([name], false)
  | fuel + 1, name =>
    match request.system.locate request.directory name with
    | .ok path =>
      if request.system.place path = .directory then
        let start := if name.toList.getLast? = some '/' then name else name ++ "/"
        ((request.system.names path).flatMap fun inner =>
          (filesBelow request fuel (start ++ inner)).1, true)
      else ([name], false)
    | .error _ => ([name], false)

/-- The files to search, and whether a directory is among what was named. -/
def searchedFiles (request : Request) (recursive : Bool) (names : List String) :
    List String × Bool :=
  if !recursive then (if names.isEmpty then ["-"] else names, false)
  else
    -- no names stand for the current directory, which is left away
    let results := if names.isEmpty then
        (request.system.names request.directory).map fun name =>
          ((filesBelow request FileSystem.maxPath name).1, true)
      else names.map (filesBelow request FileSystem.maxPath)
    (results.flatMap (·.1), results.any (·.2))

/-- Whether an argument asks for colours, which are left out where the output is no terminal. -/
def isColour (argument : String) : Bool :=
  argument = "--color" || argument = "--colour" || argument.startsWith "--color="
    || argument.startsWith "--colour="

end LineSearch

open LineSearch in
def grep : Utility := fun request =>
  let request := { request with
    usage := some s!"Usage: {request.name} [OPTION]... PATTERNS [FILE]..."
    arguments := (request.arguments.filter (!isColour ·)).map spelledContext }
  let failed (complaint : String) : Response :=
    { errors := [s!"{request.name}: {complaint}"], status := 2 }
  request.withOptions known fun given operands =>
    match given.foldlM (fun (options : Options) (letter, value) => options.add letter value) {} with
    | .error complaint => failed complaint
    | .ok options =>
    let listed := options.patternFiles.map fun file =>
      match request.content file with
      | .ok content => Except.ok (linesIn (ofBytes content.excerpt))
      | .error fault => .error s!"{file}: {fault.reason}"
    match listed.mapM id with
    | .error complaint => failed complaint
    | .ok listed =>
    let explicit : Bool := given.any fun option => option.1 = 'e' || option.1 = 'f'
    if !explicit && operands.isEmpty then
      { errors := request.usage.toList ++ [request.hint], status := 2 }
    else
    let patterns := if explicit then options.patterns ++ listed.flatten.map String.ofList
      else Text.pieces '\n' (operands.headD "")
    let files := if explicit then operands else operands.drop 1
    let operandCount := files.length
    let (files, inDirectory) := searchedFiles request options.recursive files
    match patterns.mapM (expression options) with
    | .error complaint => failed complaint
    | .ok expressions =>
      let named := options.names.getD (inDirectory || 1 < operandCount)
      let results := untilFitting options.quiet
        (files.map (searched request options expressions named))
      let fitting := results.any (·.fitting)
      let unread := results.any (·.unread)
      { output := text (results.flatMap (·.shown))
        errors := results.flatMap fun result =>
          if options.silent && result.unread then [] else result.complaint.toList
        status := if unread && !(options.quiet && fitting) then 2 else if fitting then 0 else 1
        stopped := results.any (·.stopped)
        left := if files = ["-"] then (results.map (·.left)).foldl (· + ·) 0 else 0 }

end ArtifactRelease.Shell.Utility
