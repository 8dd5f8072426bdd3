import ArtifactRelease.Shell.Floating
import ArtifactRelease.Shell.Regular.Reader
import ArtifactRelease.Shell.Utility.Sed.Script

/-!
# Reading editing scripts

Instructions are read one after the other.  A fault is found behind the character that gives it
away, so it comes with what is left to read there.
-/

namespace ArtifactRelease.Shell.Sed

/-- Why a text is no script, and how much of it is left there. -/
structure Fault where
  message : String
  /-- How many characters are left, or none if the place is of no importance. -/
  left : Option Nat

/-- Something that was read, and what follows it. -/
abbrev WithRest (α : Type) := α × List Char

def refuse {α : Type} (message : String) (rest : List Char) : Except Fault α :=
  .error ⟨message, some rest.length⟩

def isBlank (c : Char) : Bool := c = ' ' || c = '\t'

/-- A character by its number, which is taken modulo 256. -/
def octet (number : Nat) : Char := Char.ofNat (number % 256)

/-- A character given by a number behind a letter for its base, or by its key behind the letter for
controls, and what follows it. -/
def numbered? (letter : Char) (rest : List Char) : Option (Char × List Char) :=
  let read (base count : Nat) (isDigit : Char → Bool) : Option (Char × List Char) :=
    let digits := (rest.take count).takeWhile isDigit
    if digits.isEmpty then none
    else some (octet (Arithmetic.valueIn base digits), rest.drop digits.length)
  match letter with
  | 'x' => read 16 2 fun c => (Arithmetic.hexDigit? c).isSome
  | 'd' => read 10 3 Char.isDigit
  | 'o' => read 8 3 fun c => '0' ≤ c && c ≤ '7'
  | 'c' =>
    match rest with
    | c :: rest => some (octet (c.toUpper.toNat ^^^ 64), rest)
    | [] => none
  | _ => none

/-- The character that a letter behind a backslash stands for in all texts. -/
def letterEscape? : Char → Option Char
  | 'a' => some '\x07'
  | 'f' => some '\x0c'
  | 'r' => some '\r'
  | 't' => some '\t'
  | 'v' => some '\x0b'
  | _ => none

/-- Puts the characters in the place of their escapes; those that mean something in an expression
keep a backslash. -/
def withCharacters (special : List Char) : (fuel : Nat) → List Char → List Char
  | 0, text => text
  | _, [] => []
  | fuel + 1, '\\' :: c :: rest =>
    match letterEscape? c with
    | some character => character :: withCharacters special fuel rest
    | none =>
      match numbered? c rest with
      | some (character, rest) =>
        let shown := if character ∈ special then ['\\', character] else [character]
        shown ++ withCharacters special fuel rest
      | none => '\\' :: c :: withCharacters special fuel rest
  | fuel + 1, c :: rest => c :: withCharacters special fuel rest

/-! ## Delimited texts -/

/-- A text up to a delimiter, which counts neither behind a backslash nor, in an expression, in
brackets.  There is none if the script or the line ends before. -/
def delimited? (delimiter : Char) (isExpression : Bool) :
    (fuel : Nat) → (bracket : Nat) → List Char → Option (List Char × List Char)
  | 0, _, _ => none
  | _, _, [] => none
  | fuel + 1, bracket, c :: rest =>
    let more (shown : List Char) (bracket : Nat) (rest : List Char) :
        Option (List Char × List Char) :=
      (delimited? delimiter isExpression fuel bracket rest).map fun (text, rest) =>
        (shown ++ text, rest)
    if c = '\\' && (bracket = 0 || rest.head? = some delimiter || rest.head? = some 'n') then
      match rest with
      | [] => none
      | escaped :: rest =>
        if escaped = delimiter then
          more (if !isExpression && escaped = '&' then ['\\', escaped] else [escaped]) bracket rest
        else if escaped = 'n' && isExpression then more ['\n'] bracket rest
        else if escaped = '\n' then
          more (if isExpression then ['\n'] else ['\\', '\n']) bracket rest
        else more ['\\', escaped] bracket rest
    else if bracket = 0 then
      if c = delimiter then some ([], rest)
      else if c = '\n' then none
      else if c = '[' && isExpression then
        -- a closing bracket at the start stands for itself
        match rest with
        | '^' :: ']' :: rest => more ['[', '^', ']'] 1 rest
        | ']' :: rest => more ['[', ']'] 1 rest
        | _ => more [c] 1 rest
      else more [c] 0 rest
    else if c = '\n' then none
    else match c, rest with
      | ']', _ => more [c] (bracket - 1) rest
      | '[', mark :: rest =>
        if mark ∈ [':', '.', '='] then more ['[', mark] (bracket + 1) rest
        else more [c] bracket (mark :: rest)
      | _, _ => more [c] bracket rest

/-- A text up to a delimiter, and what follows it. -/
def delimited (delimiter : Char) (isExpression : Bool) (text : List Char) :
    Option (List Char × List Char) :=
  delimited? delimiter isExpression (text.length + 1) 0 text

def readAddressFlags (dialect : Regular.Dialect) (manner : Regular.Manner) :
    List Char → Regular.Dialect × Regular.Manner × List Char
  | 'I' :: rest =>
    readAddressFlags { dialect with ignoreCase := true } { manner with ignoreCase := true } rest
  | 'M' :: rest => readAddressFlags dialect { manner with lines := true } rest
  | rest => (dialect, manner, rest)

/-- The expression in a text; an empty one is the one used last. -/
def sought (dialect : Regular.Dialect) (manner : Regular.Manner) (text rest : List Char) :
    Except Fault (Option Sought) :=
  if text.isEmpty then .ok none
  else
    let special := "$*.[]^\\/+?()\x7b\x7d|".toList
    match Regular.parse dialect (withCharacters special text.length text) with
    | .ok regular => .ok (some { regular, manner })
    | .error fault => refuse fault.message rest

/-! ## Addresses -/

def readNumber (text : List Char) : Nat × List Char :=
  let digits := text.takeWhile Char.isDigit
  (Number.ofDigits digits, text.drop digits.length)

/-- An expression as an address, behind its first delimiter. -/
def readFitting (dialect : Regular.Dialect) (delimiter : Char) (text : List Char) :
    Except Fault (WithRest (Option Sought)) := do
  match delimited delimiter true text with
  | none => refuse "unterminated address regex" (text.dropWhile (· ≠ '\n'))
  | some (expression, rest) =>
    let (dialect, manner, rest) := readAddressFlags dialect {} rest
    return (← sought dialect manner expression rest, rest)

/-- An address, if there is one. -/
def readAddress (dialect : Regular.Dialect) (text : List Char) :
    Except Fault (WithRest (Option Address)) := do
  match text with
  | '/' :: rest =>
    let (sought, rest) ← readFitting dialect '/' rest
    return (some (.fitting sought), rest)
  | '\\' :: delimiter :: rest =>
    let (sought, rest) ← readFitting dialect delimiter rest
    return (some (.fitting sought), rest)
  | '$' :: rest => return (some .last, rest)
  | c :: _ =>
    if c = '+' || c = '~' then
      refuse "invalid usage of +N or ~N as first address" (readNumber (text.drop 1)).2
    else if !c.isDigit then return (none, text)
    else
      let (number, rest) := readNumber text
      match rest.dropWhile isBlank with
      | '~' :: later =>
        let (step, rest) := readNumber (later.dropWhile isBlank)
        return (some (.every number step), rest)
      | _ => return (some (.line number), rest)
  | [] => return (none, [])

/-- The end of a range, behind the comma. -/
def readBound (dialect : Regular.Dialect) (text : List Char) : Except Fault (WithRest Bound) := do
  match text with
  | '+' :: rest =>
    let (count, rest) := readNumber rest
    return (.further count, rest)
  | '~' :: rest =>
    let (factor, rest) := readNumber rest
    return (.multiple factor, rest)
  | _ =>
    match ← readAddress dialect text with
    | (some (.line number), rest) => return (.line number, rest)
    | (some (.every number _), rest) => return (.line number, rest)
    | (some .last, rest) => return (.last, rest)
    | (some (.fitting sought), rest) => return (.fitting sought, rest)
    | (none, rest) => refuse "unexpected `,'" (rest.drop 1)

def readSelector (dialect : Regular.Dialect) (text : List Char) :
    Except Fault (WithRest Selector) := do
  match ← readAddress dialect text with
  | (none, rest) => return (.always, rest)
  | (some first, rest) =>
    match rest.dropWhile isBlank with
    | ',' :: rest =>
      let (bound, rest) ← readBound dialect (rest.dropWhile isBlank)
      let rest := rest.dropWhile isBlank
      match first, bound with
      | .line 0, .fitting sought => return (.untilFitting sought, rest)
      | .line 0, _ => refuse "invalid usage of line address 0" (rest.drop 1)
      | _, _ => return (.range first bound, rest)
    | rest =>
      match first with
      | .line 0 => refuse "invalid usage of line address 0" (rest.drop 1)
      | _ => return (.single first, rest)

/-! ## Instructions -/

def readEnd (text : List Char) : Except Fault (List Char) :=
  match text.dropWhile isBlank with
  | [] => .ok []
  | c :: rest =>
    if c = '\x7d' || c = '#' then .ok (c :: rest)
    else if c = '\n' || c = ';' then .ok rest
    else refuse "extra characters after command" rest

/-- A text to be written, up to the end of a line without a backslash. -/
def readLines : (fuel : Nat) → List Char → List Char × List Char
  | 0, text => ([], text)
  | _, [] => ([], [])
  | _, ['\\'] => ([], [])
  | fuel + 1, '\\' :: c :: rest =>
    let escaped := if c = 'n' then some '\n' else letterEscape? c
    match escaped, numbered? c rest with
    | some character, _ =>
      let (text, rest) := readLines fuel rest
      (character :: text, rest)
    | none, some (character, rest) =>
      let (text, rest) := readLines fuel rest
      (character :: text, rest)
    | none, none =>
      let (text, rest) := readLines fuel rest
      (c :: text, rest)
  | _, '\n' :: rest => ([], rest)
  | fuel + 1, c :: rest =>
    let (text, rest) := readLines fuel rest
    (c :: text, rest)

def readText (text : List Char) : Except Fault (WithRest (List Char)) := do
  let finished (text : List Char) : List Char × List Char :=
    let (lines, rest) := readLines (text.length + 1) text
    (lines ++ ['\n'], rest)
  match text.dropWhile isBlank with
  | [] => refuse "expected \\ after `a', `c' or `i'" []
  | ['\\'] => return ([], [])
  | '\\' :: later =>
    match later.dropWhile isBlank with
    | '\n' :: rest => return finished rest
    | _ => return finished later
  | rest => return finished rest

/-- A label, up to a blank, the end of the instruction or of a block. -/
def readLabel (text : List Char) : String × List Char :=
  let text := text.dropWhile isBlank
  let name := text.takeWhile fun c => !isBlank c && c ≠ '\n' && c ≠ ';' && c ≠ '\x7d'
  (String.ofList name, text.drop name.length)

/-- The name of a file, up to the end of the line. -/
def readName (text : List Char) : Except Fault (WithRest String) :=
  let text := text.dropWhile isBlank
  let name := text.takeWhile (· ≠ '\n')
  if name.isEmpty then refuse "missing filename in r/R/w/W commands" (text.drop name.length)
  else .ok (String.ofList name, text.drop name.length)

def replacement : (fuel : Nat) → List Char → List Part
  | 0, _ => []
  | _, [] => []
  | fuel + 1, '&' :: rest => .group 0 :: replacement fuel rest
  | fuel + 1, '\\' :: c :: rest =>
    if c.isDigit then .group (c.toNat - 48) :: replacement fuel rest
    else match c with
      | 'L' => .change .lower :: replacement fuel rest
      | 'U' => .change .upper :: replacement fuel rest
      | 'l' => .change .lowerNext :: replacement fuel rest
      | 'u' => .change .upperNext :: replacement fuel rest
      | 'E' => .change .stop :: replacement fuel rest
      | 'n' => .text ['\n'] :: replacement fuel rest
      | _ => .text [c] :: replacement fuel rest
  | fuel + 1, c :: rest => .text [c] :: replacement fuel rest

structure SubstitutionFlags where
  occurrence : Option Nat := none
  all : Bool := false
  prints : Bool := false
  ignoreCase : Bool := false
  lines : Bool := false
  file : Option String := none

def readFlags : (fuel : Nat) → SubstitutionFlags → List Char →
    Except Fault (WithRest SubstitutionFlags)
  | 0, flags, text => .ok (flags, text)
  | _, flags, [] => .ok (flags, [])
  | fuel + 1, flags, c :: rest =>
    match c with
    | 'i' | 'I' => readFlags fuel { flags with ignoreCase := true } rest
    | 'm' | 'M' => readFlags fuel { flags with lines := true } rest
    | 'p' =>
      if flags.prints then refuse "multiple `p' options to `s' command" rest
      else readFlags fuel { flags with prints := true } rest
    | 'g' =>
      if flags.all then refuse "multiple `g' options to `s' command" rest
      else readFlags fuel { flags with all := true } rest
    | 'w' => do
      let (name, rest) ← readName rest
      return ({ flags with file := some name }, rest)
    | '\x7d' | '#' => .ok (flags, c :: rest)
    | '\n' | ';' => .ok (flags, rest)
    | _ =>
      if c.isDigit then
        let (number, rest) := readNumber (c :: rest)
        if flags.occurrence.isSome then
          refuse "multiple number options to `s' command" rest
        else if number = 0 then refuse "number option to `s' command may not be zero" rest
        else readFlags fuel { flags with occurrence := some number } rest
      else if isBlank c || c = '\r' then readFlags fuel flags rest
      else refuse "unknown option to `s'" rest

def readSubstitution (dialect : Regular.Dialect) (text : List Char) :
    Except Fault (WithRest Action) := do
  let unterminated : Except Fault (WithRest Action) :=
    refuse "unterminated `s' command" (text.dropWhile (· ≠ '\n'))
  match text with
  | [] => unterminated
  | delimiter :: rest =>
    match delimited delimiter true rest with
    | none => unterminated
    | some (expression, rest) =>
      match delimited delimiter false rest with
      | none => unterminated
      | some (written, rest) =>
        let parts := replacement (written.length + 1)
          (withCharacters ['&', '\\'] written.length written)
        let (flags, rest) ← readFlags (rest.length + 1) {} rest
        let dialect := { dialect with ignoreCase := flags.ignoreCase }
        let manner : Regular.Manner := { ignoreCase := flags.ignoreCase, lines := flags.lines }
        let sought ← sought dialect manner expression rest
        let highest := parts.foldl (fun highest part => match part with
          | .group number => max highest number
          | _ => highest) 0
        match sought with
        | some sought =>
          if sought.regular.groupCount < highest then
            refuse s!"invalid reference \\{highest} on `s' command's RHS" rest
        | none => pure ()
        return (.substitute
          { sought
            replacement := parts
            occurrence := flags.occurrence.getD 1
            all := flags.all
            prints := flags.prints
            file := flags.file }, rest)

def mapMembers : (fuel : Nat) → List Char → List Char
  | 0, _ => []
  | _, [] => []
  | fuel + 1, '\\' :: 'n' :: rest => '\n' :: mapMembers fuel rest
  | fuel + 1, '\\' :: '\\' :: rest => '\\' :: mapMembers fuel rest
  | fuel + 1, '\\' :: '\n' :: rest => '\n' :: mapMembers fuel rest
  | fuel + 1, c :: rest => c :: mapMembers fuel rest

def readCharacterMap (text : List Char) : Except Fault (WithRest Action) := do
  let unterminated : Except Fault (WithRest Action) :=
    refuse "unterminated `y' command" (text.dropWhile (· ≠ '\n'))
  let characters (text : List Char) : List Char :=
    mapMembers text.length (withCharacters ['\\'] text.length text)
  match text with
  | [] => unterminated
  | delimiter :: rest =>
    match delimited delimiter false rest with
    | none => unterminated
    | some (before, rest) =>
      match delimited delimiter false rest with
      | none => unterminated
      | some (behind, rest) =>
        let (sources, targets) := (characters before, characters behind)
        if sources.length ≠ targets.length then
          refuse "strings for `y' command are different lengths" rest
        return (.mapCharacters (List.zip sources targets), ← readEnd rest)

def readAction (dialect : Regular.Dialect) (selector : Selector) (depth : Nat) (letter : Char)
    (rest : List Char) : Except Fault (WithRest Action) := do
  let plain (action : Action) : Except Fault (WithRest Action) := do
    return (action, ← readEnd rest)
  let named (action : String → Action) : Except Fault (WithRest Action) := do
    let (name, rest) ← readName rest
    return (action name, rest)
  let jump (test : JumpTest) : Except Fault (WithRest Action) := do
    let (name, rest) := readLabel rest
    return (.jump test name, ← readEnd rest)
  let isRange : Bool := match selector with
    | .range _ _ | .untilFitting _ => true
    | _ => false
  let isAlways : Bool := match selector with
    | .always => true
    | _ => false
  let quitting (action : Nat → Action) : Except Fault (WithRest Action) := do
    if isRange then refuse "command only uses one address" rest
    let (status, rest) := readNumber (rest.dropWhile isBlank)
    return (action status, ← readEnd rest)
  match letter with
  | '#' =>
    if !isAlways then refuse "comments don't accept any addresses" rest
    return (.nothing, rest.dropWhile (· ≠ '\n'))
  | '\x7b' => return (.opening, rest)
  | '\x7d' =>
    if depth = 0 then refuse "unexpected `\x7d'" rest
    if !isAlways then refuse "\x7d doesn't want any addresses" rest
    plain .closing
  | ':' =>
    if !isAlways then refuse ": doesn't want any addresses" rest
    let (name, rest) := readLabel rest
    if name.isEmpty then refuse "\":\" lacks a label" rest
    return (.label name, rest)
  | '=' => plain .lineNumber
  | 'F' => plain .fileName
  | 'a' => return (← readText rest).map .append id
  | 'i' => return (← readText rest).map .insert id
  | 'c' => return (← readText rest).map .change id
  | 'b' => jump .always
  | 't' => jump .replaced
  | 'T' => jump .notReplaced
  | 'd' => plain .delete
  | 'D' => plain .deleteFirst
  | 'z' => plain .clear
  | 'g' => plain .fetch
  | 'G' => plain .fetchMore
  | 'h' => plain .hold
  | 'H' => plain .holdMore
  | 'x' => plain .exchange
  | 'l' =>
    let digits := (rest.dropWhile isBlank).takeWhile Char.isDigit
    let (width, rest) := readNumber (rest.dropWhile isBlank)
    return (.list (if digits.isEmpty then none else some width), ← readEnd rest)
  | 'n' => plain .next
  | 'N' => plain .nextMore
  | 'p' => plain .print
  | 'P' => plain .printFirst
  | 'q' => quitting .quit
  | 'Q' => quitting .quitSilently
  | 'r' => named .readFile
  | 'R' => named .readLine
  | 'w' => named .write
  | 'W' => named .writeFirst
  | 's' => readSubstitution dialect rest
  | 'v' => return (.nothing, ← readEnd (readLabel rest).2)
  | 'y' => readCharacterMap rest
  | _ => refuse s!"unknown command: `{letter}'" rest

/-- An instruction, behind the blanks in front of it. -/
def readInstruction (dialect : Regular.Dialect) (index depth : Nat) (text : List Char) :
    Except Fault (WithRest Instruction) := do
  let (selector, rest) ← readSelector dialect text
  let rest := rest.dropWhile isBlank
  let (negated, rest) := match rest with
    | '!' :: rest => (true, rest.dropWhile isBlank)
    | rest => (false, rest)
  match rest with
  | [] => refuse "missing command" []
  | letter :: rest =>
    if negated && letter = '!' then refuse "multiple `!'s" rest
    if letter = '\n' || letter = ';' then refuse "missing command" rest
    let (action, rest) ← readAction dialect selector depth letter rest
    return ({ index, selector, negated, action }, rest)

def readScript (dialect : Regular.Dialect) :
    (fuel : Nat) → (index depth : Nat) → List Char → Except Fault Script
  | 0, _, _, _ => .ok []
  | fuel + 1, index, depth, text => do
    match text.dropWhile fun c => Floating.isSpace c || c = ';' with
    | [] => if depth = 0 then return [] else .error ⟨"unmatched `\x7b'", none⟩
    | text =>
      let (instruction, rest) ← readInstruction dialect index depth text
      let depth := match instruction.action with
        | .opening => depth + 1
        | .closing => depth - 1
        | _ => depth
      return instruction :: (← readScript dialect fuel (index + 1) depth rest)

end ArtifactRelease.Shell.Sed
