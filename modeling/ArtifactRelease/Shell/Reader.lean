import ArtifactRelease.Shell.Token

/-!
# Reading shell commands

A script is read one line at a time, as far as the commands that begin on it reach, so that lines
before a mistake are run before it is found.  A word that stands where a command could start may be
a reserved one, or another name for a text that is read in its place.
-/

namespace ArtifactRelease.Shell

def reservedWords : List String :=
  ["!", "case", "do", "done", "elif", "else", "esac", "fi", "for", "if", "in", "then", "until",
    "while", "\x7b", "\x7d"]

namespace Token

/-- The reserved word that a token is, if it stands where one is looked for. -/
def reserved? : Token → Option String
  | .word text => (plainText? text).filter (· ∈ reservedWords)
  | _ => none

def sign? : Token → Option String
  | .operator text => some text
  | token => token.reserved?

def describe (token : Token) : String :=
  match token, token.sign? with
  | _, some sign => s!"\"{sign}\""
  | .word _, _ => "word"
  | .redirection _ _ _, _ => "redirection"
  | .newline, _ => "newline"
  | _, _ => "end of file"

/-- How a token is named where no reserved words are looked for. -/
def describePlain (token : Token) : String :=
  if token matches .word _ then "word" else token.describe

/-- The words and operators that end the lists inside of compound commands. -/
def endsList (token : Token) : Bool :=
  let closing : List String :=
    [")", ";;", "do", "done", "elif", "else", "esac", "fi", "then", "\x7d"]
  (token matches .endOfFile) || token.sign?.any (· ∈ closing)

end Token

/-- A text that was put in place of another name.  It is read as long as no less is left of the
script than what stood behind the name. -/
structure Replacement where
  name : String
  behind : Nat
  /-- Whether the text ends in a blank, so that the word behind it may be another name as well. -/
  blankEnd : Bool
  deriving Repr

/-- The script behind the tokens taken so far; one token can be put back. -/
structure Cursor where
  source : Source
  aliases : Aliases := []
  replaced : List Replacement := []
  ahead : Option Token := none

abbrev Reading := StateT Cursor (Except Fault)

namespace Reading

def next : Reading Token := do
  let cursor ← get
  match cursor.ahead with
  | some token =>
    set { cursor with ahead := none }
    return token
  | none =>
    let (token, source) ← cursor.source.next
    set { cursor with source }
    return token

def putBack (token : Token) : Reading Unit :=
  modify fun cursor => { cursor with ahead := some token }

def peek : Reading Token := do
  let token ← next
  putBack token
  return token

def line : Reading Nat := do
  return (← get).source.line

def left : Reading Nat := do
  return (← get).source.rest.length

/-- The other name that a token is, unless its text is being read. -/
def alias? (token : Token) : Reading (Option (String × List Char)) := do
  let cursor ← get
  let left := cursor.source.rest.length
  match token with
  | .word word =>
    return (plainText? word).bind fun name =>
      if token.reserved?.isSome || cursor.replaced.any fun replacement =>
        replacement.name = name && replacement.behind ≤ left then none
      else cursor.aliases.find? (·.1 = name)
  | _ => return none

/-- Reads the text for another name in place of the name, as often as there is one. -/
def withoutAlias : (limit : Nat) → Token → Reading Token
  | 0, token => return token
  | limit + 1, token => do
    match ← alias? token with
    | none => return token
    | some (name, text) =>
      let blankEnd := text.getLast?.any isBlank
      modify fun cursor => { cursor with
        replaced := ⟨name, cursor.source.rest.length, blankEnd⟩ :: cursor.replaced
        source := { cursor.source with rest := text ++ cursor.source.rest } }
      withoutAlias limit (← next)

def unaliased (token : Token) : Reading Token := do
  withoutAlias ((← get).aliases.length + 1) token

/-- Whether the last token came behind a text that ends in a blank; `before` was left in front of
it. -/
def followsBlankEnd (before : Nat) : Reading Bool := do
  let cursor ← get
  return cursor.replaced.any fun replacement =>
    replacement.blankEnd && replacement.behind ≤ before
      && cursor.source.rest.length < replacement.behind

def fail {α : Type} (message : String) : Reading α := do
  throw ⟨← line, "Syntax error: " ++ message⟩

def unexpected {α : Type} (token : Token) : Reading α :=
  fail s!"{token.describe} unexpected"

def expected {α : Type} (token : Token) (wanted : String) : Reading α :=
  fail s!"{token.describe} unexpected (expecting {wanted})"

/-- The next token that is no line end; `limit` bounds how many are passed. -/
def nextPastLines : (limit : Nat) → Reading Token
  | 0 => next
  | limit + 1 => do
    match ← next with
    | .newline => nextPastLines limit
    | token => return token

def significant : Reading Token := do
  nextPastLines (← get).source.rest.length

def pass (wanted : String) : Reading Unit := do
  let token ← next
  if token.sign? = some wanted then return () else expected token s!"\"{wanted}\""

/-- Passes a reserved word that may stand behind line ends. -/
def passPastLines (wanted : String) : Reading Unit := do
  let token ← significant
  if token.sign? = some wanted then return () else expected token s!"\"{wanted}\""

/-- The target of a redirection, which is a word unless it came with its operator. -/
def target (document : Option Word) : Reading Word := do
  match document with
  | some body => return body
  | none =>
    match ← next with
    | .word word => return word
    | token => fail s!"{token.describePlain} unexpected"

/-- Reads the redirections behind a compound command. -/
def redirections : (limit : Nat) → Reading (List Redirection)
  | 0 => return []
  | limit + 1 => do
    match ← next with
    | .redirection descriptor kind document =>
      let word ← target document
      return ⟨descriptor, kind, word⟩ :: (← redirections limit)
    | token =>
      putBack token
      return []

end Reading

def assignment? : Word → Option (String × Word)
  | .text content false :: rest =>
    let name := content.takeWhile isNameChar
    match name, content.dropWhile isNameChar with
    | c :: _, '=' :: value =>
      if isNameStart c then
        some (String.ofList name, if value.isEmpty then rest else .text value false :: rest)
      else none
    | _, _ => none
  | _ => none

def isName (text : String) : Bool :=
  match text.toList with
  | c :: rest => isNameStart c && rest.all isNameChar
  | [] => false

/-- Commands that are part of the language, after which no function can be named. -/
def specialBuiltins : List String :=
  [".", ":", "break", "continue", "eval", "exec", "exit", "export", "local", "readonly", "return",
    "set", "shift", "trap", "unset"]

/-- A simple command in the making; its parts are gathered last first. -/
structure Draft where
  assignments : List (String × Word) := []
  words : List Word := []
  redirections : List Redirection := []

def Draft.command (draft : Draft) (line : Nat) : Command :=
  .simple line draft.assignments.reverse draft.words.reverse draft.redirections.reverse

inductive SimpleForm where
  | command (command : Command)
  /-- The head of a function; its body follows. -/
  | function (name : String)

/-- Reads a simple command, or the head of a function. -/
def readSimple (line : Nat) : (limit : Nat) → Draft → Reading SimpleForm
  | 0, draft => return .command (draft.command line)
  | limit + 1, draft => do
    let before ← Reading.left
    let token ← Reading.next
    let renamed ← if draft.words.isEmpty then pure true else Reading.followsBlankEnd before
    match ← if renamed then Reading.unaliased token else pure token with
    | .word word =>
      match draft.words, assignment? word with
      | [], some assignment =>
        readSimple line limit { draft with assignments := assignment :: draft.assignments }
      | _, _ => readSimple line limit { draft with words := word :: draft.words }
    | .redirection descriptor kind document =>
      let word ← Reading.target document
      readSimple line limit
        { draft with redirections := ⟨descriptor, kind, word⟩ :: draft.redirections }
    | token =>
      match token, draft with
      | .operator "(", ⟨[], [word], []⟩ =>
        let closing ← Reading.next
        if closing.sign? ≠ some ")" then
          Reading.fail s!"{closing.describePlain} unexpected (expecting \")\")"
        else match plainText? word with
          | some name =>
            if isName name && name ∉ specialBuiltins then return .function name
            else Reading.fail "Bad function name"
          | none => Reading.fail "Bad function name"
      | _, _ =>
        Reading.putBack token
        return .command (draft.command line)

/-- The words of a loop, up to the end of their line. -/
def readLoopWords : (limit : Nat) → Reading (List Word)
  | 0 => return []
  | limit + 1 => do
    match ← Reading.next with
    | .word word => return word :: (← readLoopWords limit)
    | .newline | .operator ";" => return []
    | token => Reading.fail s!"{token.describePlain} unexpected"

/-- The patterns of a case, up to the parenthesis behind them; the first token was taken. -/
def readPatterns : (limit : Nat) → Token → Reading (List Word)
  | 0, token => Reading.expected token "word"
  | limit + 1, token => do
    let pattern := match token with
      | .word word => word
      | _ => []
    let separator ← Reading.next
    if separator.sign? = some "|" then
      return pattern :: (← readPatterns limit (← Reading.next))
    else if separator.sign? = some ")" then return [pattern]
    else Reading.fail s!"{separator.describePlain} unexpected (expecting \")\")"

inductive ListPlace where
  /-- A line of the script, which ends with it. -/
  | line
  /-- The inside of a compound command, which is not empty. -/
  | block
  /-- The body of a case, which may be empty. -/
  | clause
  deriving Repr, DecidableEq

def joined : List Command → Command
  | [command] => command
  | commands => .sequence commands

mutual

/-- Reads the commands of a list, gathered last first. -/
def readList : (fuel : Nat) → ListPlace → List Command → Reading (List Command)
  | 0, _, _ => Reading.fail "too deep"
  | fuel + 1, place, commands => do
    let token ← if place = .line then Reading.next else Reading.significant
    if token matches .newline then return commands
    Reading.putBack token
    let mayEnd := place ≠ .line && (place = .clause || !commands.isEmpty)
    if (token matches .endOfFile) || (mayEnd && token.endsList) then return commands
    let command ← readConditional fuel
    let token ← Reading.next
    match token with
    | .operator "&" => readList fuel place (.background command :: commands)
    | .operator ";" => readList fuel place (command :: commands)
    | .newline =>
      if place = .line then return command :: commands
      else readList fuel place (command :: commands)
    | .endOfFile =>
      Reading.putBack token
      return command :: commands
    | _ =>
      if place = .line then Reading.unexpected token
      else
        Reading.putBack token
        return command :: commands

def readBlock : (fuel : Nat) → ListPlace → Reading Command
  | 0, _ => Reading.fail "too deep"
  | fuel + 1, place => do
    let commands ← readList fuel place []
    let token ← Reading.peek
    if commands.isEmpty && place = .block && !(token matches .endOfFile) then
      Reading.unexpected token
    else return joined commands.reverse

/-- Reads pipelines with `&&` and `||` between them. -/
def readConditional : (fuel : Nat) → Reading Command
  | 0 => Reading.fail "too deep"
  | fuel + 1 => do readConditionalTail fuel (← readPipeline fuel (← Reading.next))

/-- The two connectives bind alike, to the left. -/
def readConditionalTail : (fuel : Nat) → Command → Reading Command
  | 0, _ => Reading.fail "too deep"
  | fuel + 1, first => do
    let token ← Reading.next
    match token with
    | .operator "&&" =>
      let second ← readPipeline fuel (← Reading.significant)
      readConditionalTail fuel (.conditional true first second)
    | .operator "||" =>
      let second ← readPipeline fuel (← Reading.significant)
      readConditionalTail fuel (.conditional false first second)
    | _ =>
      Reading.putBack token
      return first

/-- Reads a pipeline from its first token on. -/
def readPipeline : (fuel : Nat) → Token → Reading Command
  | 0, _ => Reading.fail "too deep"
  | fuel + 1, token => do
    let negates := token.reserved? = some "!"
    let first ← readCommand fuel (← if negates then Reading.next else pure token)
    let later ← readStages fuel
    let pipeline := if later.isEmpty then first else .pipeline (first :: later)
    return if negates then .negated pipeline else pipeline

def readStages : (fuel : Nat) → Reading (List Command)
  | 0 => Reading.fail "too deep"
  | fuel + 1 => do
    let token ← Reading.next
    match token with
    | .operator "|" =>
      let stage ← readCommand fuel (← Reading.significant)
      return stage :: (← readStages fuel)
    | _ =>
      Reading.putBack token
      return []

/-- Reads a simple or a compound command from its first token on. -/
def readCommand : (fuel : Nat) → Token → Reading Command
  | 0, _ => Reading.fail "too deep"
  | fuel + 1, token => do
    let token ← Reading.unaliased token
    let line ← Reading.line
    match token.sign? with
    | some "if" => readRedirected fuel line (← readChoice fuel)
    | some "while" => readRedirected fuel line (← readLoop fuel true)
    | some "until" => readRedirected fuel line (← readLoop fuel false)
    | some "for" => readRedirected fuel line (← readEach fuel line)
    | some "case" => readRedirected fuel line (← readSelect fuel line)
    | some "\x7b" =>
      let body ← readBlock fuel .block
      Reading.pass "\x7d"
      readRedirected fuel line body
    | some "(" =>
      let body ← readBlock fuel .block
      Reading.pass ")"
      return .subshell line body (← Reading.redirections fuel)
    | some _ => Reading.unexpected token
    | none =>
      match token with
      | .word _ | .redirection _ _ _ =>
        Reading.putBack token
        match ← readSimple line fuel {} with
        | .command command => return command
        | .function name =>
          return .function name (← readCommand fuel (← Reading.significant))
      | _ => Reading.unexpected token

/-- The redirections behind a compound command, and the command under them. -/
def readRedirected : (fuel : Nat) → (line : Nat) → Command → Reading Command
  | 0, _, _ => Reading.fail "too deep"
  | fuel + 1, line, body => do
    let redirections ← Reading.redirections fuel
    return if redirections.isEmpty then body else .redirected line body redirections

/-- Reads a loop from behind its first word. -/
def readLoop : (fuel : Nat) → (whileSuccess : Bool) → Reading Command
  | 0, _ => Reading.fail "too deep"
  | fuel + 1, whileSuccess => do
    let condition ← readBlock fuel .block
    Reading.pass "do"
    let body ← readBlock fuel .block
    Reading.pass "done"
    return .loop whileSuccess condition body

/-- Reads a choice from behind its first word, or from behind `elif`. -/
def readChoice : (fuel : Nat) → Reading Command
  | 0 => Reading.fail "too deep"
  | fuel + 1 => do
    let condition ← readBlock fuel .block
    Reading.pass "then"
    let onSuccess ← readBlock fuel .block
    let token ← Reading.next
    match token.reserved? with
    | some "elif" => return .choice condition onSuccess (← readChoice fuel)
    | some "else" =>
      let onFailure ← readBlock fuel .block
      Reading.pass "fi"
      return .choice condition onSuccess onFailure
    | some "fi" => return .choice condition onSuccess (.sequence [])
    | _ => Reading.expected token "\"fi\""

/-- Reads a loop over words from behind its first word. -/
def readEach : (fuel : Nat) → (line : Nat) → Reading Command
  | 0, _ => Reading.fail "too deep"
  | fuel + 1, line => do
    match ← Reading.next with
    | .word word =>
      match (plainText? word).filter isName with
      | none => Reading.fail "Bad for loop variable"
      | some name =>
        let token ← Reading.significant
        let words ←
          if token.reserved? = some "in" then some <$> readLoopWords fuel
          else do
            if token.sign? ≠ some ";" then Reading.putBack token
            pure none
        Reading.passPastLines "do"
        let body ← readBlock fuel .block
        Reading.pass "done"
        return .each line name words body
    | _ => Reading.fail "Bad for loop variable"

/-- Reads a selection from behind its first word. -/
def readSelect : (fuel : Nat) → (line : Nat) → Reading Command
  | 0, _ => Reading.fail "too deep"
  | fuel + 1, line => do
    match ← Reading.next with
    | .word subject =>
      Reading.passPastLines "in"
      return .select line subject (← readCases fuel)
    | token => Reading.expected token "word"

def readCases : (fuel : Nat) → Reading (List (List Word × Command))
  | 0 => Reading.fail "too deep"
  | fuel + 1 => do
    let token ← Reading.significant
    if token.reserved? = some "esac" then return []
    let patterns ←
      readPatterns fuel (← if token.sign? = some "(" then Reading.next else pure token)
    let body ← readBlock fuel .clause
    let token ← Reading.significant
    if token.sign? = some ";;" then return (patterns, body) :: (← readCases fuel)
    else if token.sign? = some "esac" then return [(patterns, body)]
    else Reading.expected token "\";;\""

end

/-- How many scripts may be nested in the words of others. -/
def maxScriptDepth : Nat := 200

def readInner (aliases : Aliases) (source : Source) : Except Fault (Command × Cursor) := do
  let fuel := 8 * source.rest.length + 8
  let (commands, cursor) ← (readList fuel .clause []).run { source, aliases }
  return (joined commands.reverse, cursor)

/-- Reads scripts inside of words, down to a depth. -/
def scriptReader (aliases : Aliases) : (depth : Nat) → ScriptReader
  | 0 =>
    { parenthesized := fun line _ => .error ⟨line, "Syntax error: too deep"⟩
      backquoted := fun _ => .error ⟨1, "Syntax error: too deep"⟩ }
  | depth + 1 =>
    let scripts := scriptReader aliases depth
    { parenthesized := fun line text => do
        let (script, cursor) ← readInner aliases { scripts, rest := text, line }
        let (_, cursor) ← (Reading.pass ")").run cursor
        return (script, cursor.source.rest)
      backquoted := fun text => do
        let (script, _) ← readInner aliases { scripts, rest := text }
        return script }

def Source.ofText (aliases : Aliases) (text : List Char) : Source :=
  { scripts := scriptReader aliases maxScriptDepth, rest := text }

/-- Reads the commands that begin on the next line.  The line that the end of the script is on
gives `none`. -/
def readLine (aliases : Aliases) (source : Source) : Except Fault (Option Command × Source) := do
  let source := { source with scripts := scriptReader aliases maxScriptDepth }
  let cursor : Cursor := { source, aliases }
  let (token, after) ← Reading.next.run cursor
  if token matches .endOfFile then return (none, after.source)
  let (commands, after) ← (readList (8 * source.rest.length + 8) .line []).run cursor
  return (some (joined commands.reverse), after.source)

end ArtifactRelease.Shell
