import ArtifactRelease.Shell.Command
import ArtifactRelease.Text.Lines

/-!
# Tokens of a shell script

A script is cut into words, operators and redirections.  A word ends at a blank or an operator that
stands outside of quotes; a comment starts with `#` where a word could start.  The text of a
here-document is taken from the lines that follow as soon as its operator is met.
-/

namespace ArtifactRelease.Shell

inductive Token where
  | word (word : Word)
  | operator (text : String)
  /-- A redirection, with its target if that is a here-document. -/
  | redirection (descriptor : Nat) (kind : RedirectionKind) (document : Option Word)
  | newline
  | endOfFile
  deriving Inhabited

def isBlank (c : Char) : Bool :=
  c = ' ' || c = '\t'

def isOperatorChar (c : Char) : Bool :=
  c ∈ ['\n', ';', '&', '|', '(', ')', '<', '>']

def singleQuote : Char := Char.ofNat 0x27

def backquote : Char := Char.ofNat 0x60

def isNameStart (c : Char) : Bool :=
  c.isAlpha || c = '_'

def isNameChar (c : Char) : Bool :=
  isNameStart c || c.isDigit

def isSpecialName (c : Char) : Bool :=
  c ∈ ['@', '*', '#', '?', '$', '!', '-']

/-- Where a run of segments stands, which decides what ends it and what quotes mean there. -/
inductive Context where
  | word
  | doubleQuotes
  /-- The operand of a parameter in braces, itself inside double quotes or not. -/
  | braces (quoted : Bool)
  | arithmetic
  | document
  deriving Repr, DecidableEq

namespace Context

def quotes : Context → Bool
  | word | braces false => false
  | _ => true

def isMarked (context : Context) (c : Char) : Bool :=
  c ∈ ['\\', '$', backquote] ||
    match context with
    | word => isBlank c || isOperatorChar c || c = '"' || c = singleQuote
    | doubleQuotes => c = '"'
    | braces false => c ∈ ['\x7d', '"', singleQuote]
    | braces true => c ∈ ['\x7d', '"']
    | arithmetic => c = '(' || c = ')'
    | document => false

/-- A character that a backslash takes its meaning from. -/
def isEscapable (context : Context) (c : Char) : Bool :=
  c ∈ ['\\', '$', backquote] ||
    match context with
    | word | braces false => true
    | braces true => c = '"' || c = '\x7d'
    | doubleQuotes | arithmetic => c = '"'
    | document => false

/-- What is said when the text ends too early; `inDocument` if it is the text of a here-document,
where quotes are of no concern. -/
def openMessage (inDocument : Bool) : Context → String
  | arithmetic => "Missing '))'"
  | braces false => "Missing '\x7d'"
  | _ => if inDocument then "Missing '\x7d'" else "Unterminated quoted string"

end Context

structure ScriptReader where
  /-- Reads from a line on up to a closing parenthesis, and gives what follows that. -/
  parenthesized : (line : Nat) → List Char → Except Fault (Command × List Char)
  /-- Reads a script whose lines are counted anew; what follows its last command is dropped. -/
  backquoted : List Char → Except Fault Command

/-- Where words are read: how their scripts are, and on which line what is left of a text begins. -/
structure Setting where
  scripts : ScriptReader
  lineAt : List Char → Nat
  inDocument : Bool := false

def Setting.fail {α : Type} (setting : Setting) (message : String) : Except Fault α :=
  .error ⟨setting.lineAt [], "Syntax error: " ++ message⟩

/-- Complains that a context is still open at the end of the text. -/
def Setting.failIn {α : Type} (setting : Setting) (context : Context) : Except Fault α :=
  setting.fail (context.openMessage setting.inDocument)

/-- The segments in double quotes.  Something is there even if they are empty, but for the list of
all positional parameters on its own. -/
def inDoubleQuotes (inner : Word) : Word :=
  match inner with
  | [.parameter "@" .plain _ _ _] => inner
  | _ => .text [] true :: inner

/-- Takes the script in front of a closing backquote; a backslash before one of the marked
characters is dropped. -/
def splitBackquoted (quoted : Bool) : List Char → Option (List Char × List Char)
  | [] => none
  | '\\' :: c :: rest =>
    let dropped := c ∈ ['\\', '$', backquote] || (quoted && c = '"')
    (splitBackquoted quoted rest).map fun (script, rest) =>
      (if dropped then c :: script else '\\' :: c :: script, rest)
  | c :: rest =>
    if c = backquote then some ([], rest)
    else (splitBackquoted quoted rest).map fun (script, rest) => (c :: script, rest)

/-- A text that may begin with a tilde and the name of a user; `closed` if nothing else can belong
to that name. -/
def withHome (closed : Bool) (text : List Char) : Word :=
  match text with
  | '~' :: rest =>
    let user := rest.takeWhile (· ≠ '/')
    let path := rest.drop user.length
    if path.isEmpty && !closed then [.text text false]
    else if path.isEmpty then [.home user]
    else [.home user, .text path false]
  | _ => [.text text false]

/-- A text in which tildes may stand behind colons too. -/
def withHomesIn (atStart closed : Bool) : List (List Char) → Word
  | [] => []
  | [text] => if atStart then withHome closed text else [.text text false]
  | text :: later =>
    (if atStart then withHome true text else [.text text false])
      ++ .text [':'] false :: withHomesIn true closed later

/-- A word with the tildes that stand for home directories: one at its start or, in a value that is
assigned, those behind colons as well. -/
def withHomes (assigned : Bool) : (atStart : Bool) → Word → Word
  | _, [] => []
  | atStart, .text content false :: later =>
    let closed := later.isEmpty
    let first := if assigned then withHomesIn atStart closed (Text.splitOn ':' content)
      else if atStart then withHome closed content else [.text content false]
    first ++ withHomes assigned false later
  | _, segment :: later => segment :: withHomes assigned false later

/-- Reads the name of a parameter in braces, and whether its length is asked for.  A sharp sign is
a parameter itself where no name follows it. -/
def readBracedName (text : List Char) : Option (String × Bool × List Char) :=
  match text with
  | '#' :: c :: rest =>
    if isNameStart c then
      some (String.ofList (c :: rest.takeWhile isNameChar), true, rest.dropWhile isNameChar)
    else if c.isDigit then
      some (String.ofList (c :: rest.takeWhile Char.isDigit), true, rest.dropWhile Char.isDigit)
    else if isSpecialName c && rest.head? = some '\x7d' then some (String.singleton c, true, rest)
    else some ("#", false, c :: rest)
  | c :: rest =>
    if isNameStart c then
      some (String.ofList (c :: rest.takeWhile isNameChar), false, rest.dropWhile isNameChar)
    else if c.isDigit then
      some (String.ofList (c :: rest.takeWhile Char.isDigit), false, rest.dropWhile Char.isDigit)
    else if isSpecialName c then some (String.singleton c, false, rest)
    else none
  | [] => none

/-- Reads what is to be done to a parameter in braces. -/
def readAdjustment (text : List Char) : Adjustment × Bool × List Char :=
  let basic (blankIsMissing : Bool) (text : List Char) : Adjustment × Bool × List Char :=
    match text with
    | '-' :: rest => (.fallback, blankIsMissing, rest)
    | '=' :: rest => (.assigned, blankIsMissing, rest)
    | '?' :: rest => (.required, blankIsMissing, rest)
    | '+' :: rest => (.alternative, blankIsMissing, rest)
    | _ => (.unknown, false, text)
  match text with
  | '\x7d' :: _ => (.plain, false, text)
  | ':' :: rest => basic true rest
  | '#' :: '#' :: rest => (.withoutStart true, false, rest)
  | '#' :: rest => (.withoutStart false, false, rest)
  | '%' :: '%' :: rest => (.withoutEnd true, false, rest)
  | '%' :: rest => (.withoutEnd false, false, rest)
  | _ => basic false text

mutual

/-- Reads segments up to the end of their context; they are gathered last first.  `depth` counts
the open parentheses of an arithmetic expression. -/
def scan (setting : Setting) : (fuel : Nat) → Context → (depth : Nat) → List Segment →
    List Char → Except Fault (Word × List Char)
  | 0, context, _, _, _ => setting.failIn context
  | _, context, _, segments, [] =>
    match context with
    | .word | .document => .ok (segments.reverse, [])
    | _ => setting.failIn context
  | fuel + 1, context, depth, segments, c :: rest =>
    let quoted := context.quotes
    let plain (c : Char) : Bool := !context.isMarked c
    if c = '\\' then
      match rest with
      | [] => scan setting fuel context depth (.text ['\\'] true :: segments) []
      | '\n' :: rest => scan setting fuel context depth segments rest
      | escaped :: rest =>
        let content := if context.isEscapable escaped then [escaped] else ['\\', escaped]
        scan setting fuel context depth (.text content true :: segments) rest
    else if c = '$' then do
      let (segment, rest) ← scanDollar setting fuel quoted rest
      scan setting fuel context depth (segment :: segments) rest
    else if c = backquote then
      match splitBackquoted quoted rest with
      | some (script, rest) => do
        let script ← setting.scripts.backquoted script
        scan setting fuel context depth (.substitution script quoted :: segments) rest
      | none => setting.fail "EOF in backquote substitution"
    else if plain c then
      scan setting fuel context depth (.text (c :: rest.takeWhile plain) quoted :: segments)
        (rest.dropWhile plain)
    else match context with
      | .word | .braces false =>
        if c = singleQuote then
          match rest.dropWhile (· ≠ singleQuote) with
          | _ :: later =>
            let content := rest.takeWhile (· ≠ singleQuote)
            scan setting fuel context depth (.text content true :: segments) later
          | [] => setting.fail "Unterminated quoted string"
        else if c = '"' then do
          let (inner, rest) ← scan setting fuel .doubleQuotes 0 [] rest
          scan setting fuel context depth ((inDoubleQuotes inner).reverse ++ segments) rest
        else if context = .word then .ok (segments.reverse, c :: rest)
        else .ok (segments.reverse, rest)
      | .braces true =>
        if c = '"' then do
          let (inner, rest) ← scan setting fuel .doubleQuotes 0 [] rest
          scan setting fuel context depth (inner.reverse ++ segments) rest
        else .ok (segments.reverse, rest)
      | .doubleQuotes | .document => .ok (segments.reverse, rest)
      | .arithmetic =>
        if c = '(' then
          scan setting fuel context (depth + 1) (.text ['('] true :: segments) rest
        else match depth, rest with
          | 0, ')' :: rest => .ok (segments.reverse, rest)
          | _, _ => scan setting fuel context (depth - 1) (.text [')'] true :: segments) rest

def scanDollar (setting : Setting) : (fuel : Nat) → (quoted : Bool) → List Char →
    Except Fault (Segment × List Char)
  | 0, _, _ => setting.fail "Unterminated quoted string"
  | fuel + 1, quoted, text =>
    match text with
    | '(' :: '(' :: rest => do
      let (expression, rest) ← scan setting fuel .arithmetic 0 [] rest
      return (.arithmetic expression quoted, rest)
    | '(' :: rest => do
      let (script, rest) ← setting.scripts.parenthesized (setting.lineAt rest) rest
      return (.substitution script quoted, rest)
    | '{' :: rest => do
      match readBracedName rest with
      | some (name, true, rest) =>
        let (operand, rest) ← scan setting fuel (.braces quoted) 0 [] rest
        let adjustment := if operand.isEmpty then .length else .unknown
        return (.parameter name adjustment false [] quoted, rest)
      | some (name, false, rest) =>
        let (adjustment, blankIsMissing, rest) := readAdjustment rest
        let context := match adjustment with
          | .withoutStart _ | .withoutEnd _ => .braces false
          | _ => .braces quoted
        let (operand, rest) ← scan setting fuel context 0 [] rest
        let operand := if quoted then operand else withHomes false true operand
        return (.parameter name adjustment blankIsMissing operand quoted, rest)
      | none =>
        let (_, rest) ← scan setting fuel (.braces quoted) 0 [] rest
        return (.parameter "" .unknown false [] quoted, rest)
    | c :: rest =>
      if isNameStart c then
        .ok (.parameter (String.ofList (c :: rest.takeWhile isNameChar)) .plain false [] quoted,
          rest.dropWhile isNameChar)
      else if c.isDigit || isSpecialName c then
        .ok (.parameter (String.singleton c) .plain false [] quoted, rest)
      else .ok (.text ['$'] quoted, text)
    | [] => .ok (.text ['$'] quoted, [])

end

/-- A script as far as it has not been read. -/
structure Source where
  scripts : ScriptReader
  rest : List Char
  line : Nat := 1
  /-- The lines of here-documents that were taken out behind the current line. -/
  taken : Nat := 0
  /-- Those that were taken out before what is left, and are not counted yet. -/
  skipped : Nat := 0

namespace Source

/-- Goes on at `rest`, and counts the lines up to there. -/
def moveTo (source : Source) (rest : List Char) : Source :=
  let passed := source.rest.take (source.rest.length - rest.length)
  { source with rest, line := source.line + (passed.filter (· = '\n')).length }

def endLine (source : Source) (rest : List Char) : Source :=
  { source.moveTo rest with skipped := source.skipped + source.taken, taken := 0 }

def passDocuments (source : Source) : Source :=
  { source with line := source.line + source.skipped, skipped := 0 }

def takeWord (source : Source) : Except Fault (Word × Source) := do
  let setting : Setting := ⟨source.scripts, fun rest => (source.moveTo rest).line, false⟩
  let (word, rest) ← scan setting (2 * source.rest.length + 2) .word 0 [] source.rest
  return (word, source.moveTo rest)

/-- Passes blanks, comments and line ends behind a backslash. -/
def skipBlanks : (fuel : Nat) → List Char → List Char
  | 0, text => text
  | fuel + 1, text =>
    match text with
    | '\\' :: '\n' :: rest => skipBlanks fuel rest
    | c :: rest =>
      if isBlank c then skipBlanks fuel rest
      else if c = '#' then rest.dropWhile (· ≠ '\n')
      else text
    | [] => []

structure Delimiter where
  /-- Its characters without quotes, last first. -/
  characters : List Char := []
  /-- Whether any of it is quoted, so that the text is taken as it is. -/
  isQuoted : Bool := false
  deriving Repr

/-- Reads a delimiter, in which only quotes have a meaning.  There is none where a quote is left
open. -/
def readDelimiter : (fuel : Nat) → (doubleQuoted : Bool) → Delimiter → List Char →
    Option (Delimiter × List Char)
  | 0, _, _, _ => none
  | _, doubleQuoted, delimiter, [] => if doubleQuoted then none else some (delimiter, [])
  | fuel + 1, doubleQuoted, delimiter, c :: rest =>
    let add (characters : List Char) : Delimiter :=
      { delimiter with characters := characters.reverse ++ delimiter.characters }
    let quote (delimiter : Delimiter) : Delimiter := { delimiter with isQuoted := true }
    if c = '\\' then
      match rest with
      | '\n' :: rest => readDelimiter fuel doubleQuoted delimiter rest
      | escaped :: rest =>
        let kept := doubleQuoted && !Context.isEscapable .doubleQuotes escaped
        readDelimiter fuel doubleQuoted
          (quote (add (if kept then ['\\', escaped] else [escaped]))) rest
      | [] => readDelimiter fuel doubleQuoted (add ['\\']) []
    else if c = '"' then readDelimiter fuel (!doubleQuoted) (quote delimiter) rest
    else if doubleQuoted then readDelimiter fuel true (add [c]) rest
    else if c = singleQuote then
      let content := rest.takeWhile (· ≠ singleQuote)
      if content.length = rest.length then none
      else readDelimiter fuel false (quote (add content)) (rest.drop (content.length + 1))
    else if isBlank c || isOperatorChar c then some (delimiter, c :: rest)
    else readDelimiter fuel false (add [c]) rest

/-- Whether a backslash joins a line to the next one. -/
def isJoined (line : List Char) : Bool :=
  (line.reverse.takeWhile (· = '\\')).length % 2 = 1

/-- Takes the lines in front of a delimiter.  A line that is `joined` to the one before it is taken
as it is; if `literal`, then lines are not joined. -/
def takeLines (stripped literal : Bool) (delimiter : List Char) :
    (fuel : Nat) → (joined : Bool) → List Char → List (List Char) × Nat × List Char
  | 0, _, text => ([], 0, text)
  | fuel + 1, joined, text =>
    if text.isEmpty then ([], 0, [])
    else
      let line := text.takeWhile (· ≠ '\n')
      let ended := line.length < text.length
      let rest := text.drop (line.length + 1)
      let line := if stripped && !joined then line.dropWhile (· = '\t') else line
      if line = delimiter && !joined then ([], if ended then 1 else 0, rest)
      else
        let (lines, count, rest) :=
          takeLines stripped literal delimiter fuel (!literal && isJoined line) rest
        ((if ended then line ++ ['\n'] else line) :: lines, count + 1, rest)

/-- What follows the rest of the current line, from the line end on.  Words can reach over line
ends, and so can the scripts in them.  There is nothing where a word is not complete. -/
def behindLine : (source : Source) → (fuel : Nat) → List Char
  | _, 0 => []
  | source, fuel + 1 =>
    let source := source.moveTo (skipBlanks source.rest.length source.rest)
    match source.rest with
    | [] => []
    | '\n' :: rest => '\n' :: rest
    | c :: rest =>
      if isOperatorChar c then behindLine (source.moveTo rest) fuel
      else match source.takeWord with
        | .ok (_, source) => behindLine source fuel
        | .error _ => []

/-- The word that a text stands for in which only dollar signs, backquotes and backslashes have a
meaning. -/
def document (source : Source) : Except Fault Word := do
  let setting : Setting := ⟨source.scripts, fun rest => (source.moveTo rest).line, true⟩
  let (body, _) ← scan setting (2 * source.rest.length + 2) .document 0 [] source.rest
  return body

/-- Takes a here-document out of the lines behind the current one. -/
def takeDocument (source : Source) (descriptor : Nat) (stripped : Bool) :
    Except Fault (Token × Source) := do
  let source := source.moveTo (skipBlanks source.rest.length source.rest)
  let isWord : Bool := match source.rest with
    | [] => false
    | c :: rest => !isOperatorChar c
        && !(c.isDigit && (rest.head? = some '<' || rest.head? = some '>'))
  if !isWord then return (.redirection descriptor .document none, source)
  let some (delimiter, rest) := readDelimiter (source.rest.length + 1) false {} source.rest
    | .error ⟨(source.moveTo []).line, "Syntax error: Unterminated quoted string"⟩
  let source := source.moveTo rest
  let ending := delimiter.characters.reverse
  let quoted := delimiter.isQuoted
  -- without a further line there is no text, and nothing ends the current line
  let _ :: below := source.behindLine (source.rest.length + 1)
    | return (.redirection descriptor .document (some []), source)
  let line := source.rest.take (source.rest.length - below.length - 1)
  let (lines, count, rest) := takeLines stripped quoted ending (below.length + 1) false below
  let content := lines.flatten
  let start : Source := { (source.endLine below).passDocuments with rest := content }
  let source := { source with rest := line ++ '\n' :: rest, taken := source.taken + count }
  let body ← if quoted then pure [.text content true] else start.document
  return (.redirection descriptor .document (some body), source)

/-- Reads an operator or a redirection; a digit right before a redirection names the descriptor. -/
def takeOperator (source : Source) (descriptor : Option Nat) :
    Except Fault (Token × Source) :=
  let found (token : Token) (rest : List Char) : Except Fault (Token × Source) :=
    .ok (token, source.moveTo rest)
  let output := descriptor.getD 1
  let input := descriptor.getD 0
  match source.rest with
  | '>' :: '&' :: rest => found (.redirection output .duplicate none) rest
  | '>' :: '>' :: rest => found (.redirection output .append none) rest
  | '>' :: '|' :: rest => found (.redirection output .overwrite none) rest
  | '>' :: rest => found (.redirection output .write none) rest
  | '<' :: '<' :: '-' :: rest => (source.moveTo rest).takeDocument input true
  | '<' :: '<' :: rest => (source.moveTo rest).takeDocument input false
  | '<' :: '&' :: rest => found (.redirection input .duplicate none) rest
  | '<' :: '>' :: rest => found (.redirection input .readWrite none) rest
  | '<' :: rest => found (.redirection input .read none) rest
  | '&' :: '&' :: rest => found (.operator "&&") rest
  | '|' :: '|' :: rest => found (.operator "||") rest
  | ';' :: ';' :: rest => found (.operator ";;") rest
  | '\n' :: rest => .ok (.newline, source.endLine rest)
  | c :: rest => found (.operator (String.singleton c)) rest
  | [] => found .endOfFile []

def next (source : Source) : Except Fault (Token × Source) :=
  let source := source.passDocuments
  let source := source.moveTo (skipBlanks source.rest.length source.rest)
  match source.rest with
  | [] => .ok (.endOfFile, source)
  | c :: rest =>
    let redirects := rest.head? = some '<' || rest.head? = some '>'
    if c.isDigit && redirects then
      { source with rest }.takeOperator (some (c.toNat - 48))
    else if isOperatorChar c then source.takeOperator none
    else do
      let (word, source) ← source.takeWord
      return (.word word, source)

end Source

end ArtifactRelease.Shell
