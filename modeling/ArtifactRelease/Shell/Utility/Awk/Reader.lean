import ArtifactRelease.Shell.Utility.Awk.Syntax
import ArtifactRelease.Shell.Utility.Awk.Token

/-!
# Reading record scripts

Operators are read by how tightly they bind, from the loosest inwards.  In a list of things to be
written, a `>` outside of parentheses is no comparison.
-/

namespace ArtifactRelease.Shell.Awk

abbrev Reader := StateT (List Located) (Except Fault)

namespace Reader

def ended : Located := ⟨.ending, 1, "end of file"⟩

def peek : Reader Located := do
  return (← get).headD ended

def token : Reader Token := do
  return (← peek).token

def advance : Reader Unit :=
  modify fun tokens => if tokens.length ≤ 1 then tokens else tokens.drop 1

def unexpected {α : Type} : Reader α := do
  let located ← peek
  match located.token with
  | .ending => throw ⟨located.line, "missing \x7d near end of file"⟩
  | _ => throw ⟨located.line, s!"syntax error at or near {located.shown}"⟩

def isSymbol (symbol : String) : Reader Bool := do
  match ← token with
  | .symbol other => return other = symbol
  | _ => return false

def isKeyword (word : String) : Reader Bool := do
  match ← token with
  | .keyword other => return other = word
  | _ => return false

/-- Passes a symbol, if it comes next. -/
def accept (symbol : String) : Reader Bool := do
  if ← isSymbol symbol then
    advance
    return true
  return false

def expect (symbol : String) : Reader Unit := do
  if !(← accept symbol) then unexpected

def skipLines : (fuel : Nat) → Reader Unit
  | 0 => return ()
  | fuel + 1 => do
    match ← token with
    | .newline =>
      advance
      skipLines fuel
    | _ => return ()

def skipEnds : (fuel : Nat) → Reader Unit
  | 0 => return ()
  | fuel + 1 => do
    match ← token with
    | .newline | .symbol ";" =>
      advance
      skipEnds fuel
    | _ => return ()

def bound : Reader Nat := do
  return (← get).length + 1

def endStatement : Reader Unit := do
  match ← token with
  | .symbol ";" | .newline =>
    advance
    skipLines (← bound)
  | .symbol "\x7d" | .ending => return ()
  | _ => unexpected

end Reader

open Reader

structure Place where
  /-- Whether `>` compares. -/
  greater : Bool := true
  /-- Whether `in` asks for a member. -/
  members : Bool := true

def assignment? : Token → Option (Option Arithmetic)
  | .symbol "=" => some none
  | .symbol "+=" => some (some .add)
  | .symbol "-=" => some (some .subtract)
  | .symbol "*=" => some (some .multiply)
  | .symbol "/=" => some (some .divide)
  | .symbol "%=" => some (some .remainder)
  | .symbol "^=" => some (some .power)
  | _ => none

def comparison? (place : Place) : Token → Option Comparison
  | .symbol "<" => some .less
  | .symbol "<=" => some .lessOrEqual
  | .symbol "==" => some .equal
  | .symbol "!=" => some .unequal
  | .symbol ">" => if place.greater then some .greater else none
  | .symbol ">=" => some .greaterOrEqual
  | _ => none

def sum? : Token → Option Arithmetic
  | .symbol "+" => some .add
  | .symbol "-" => some .subtract
  | _ => none

def product? : Token → Option Arithmetic
  | .symbol "*" => some .multiply
  | .symbol "/" => some .divide
  | .symbol "%" => some .remainder
  | _ => none

/-- Whether a token begins an operand that is joined to the one before it. -/
def startsOperand : Token → Bool
  | .number _ | .text _ | .regular _ | .name _ | .call _ | .builtin _ => true
  | .symbol symbol => symbol ∈ ["$", "(", "!", "++", "--", "-", "+"]
  | _ => false

/-- Whether a token begins an operand that can follow another one directly. -/
def joins : Token → Bool
  | .symbol "-" | .symbol "+" | .symbol "!" => false
  | token => startsOperand token

def regular (content : List Char) : Reader Expression := do
  match Regular.parse { extended := true, escapesInBrackets := true } content with
  | .ok regular => return .regular regular
  | .error _ =>
    let located ← peek
    let shown := String.ofList content
    throw ⟨located.line, s!"regular expression compile failed (missing operand)\n{shown}"⟩

mutual

def readExpression : (fuel : Nat) → Place → Reader Expression
  | 0, _ => unexpected
  | fuel + 1, place => do
    let condition ← readEither fuel place
    match assignment? (← token), condition.isTarget with
    | some operator, true =>
      advance
      skipLines (← bound)
      return .assign condition operator (← readExpression fuel place)
    | _, _ =>
      if ← accept "?" then
        skipLines (← bound)
        let yes ← readExpression fuel place
        skipLines (← bound)
        expect ":"
        skipLines (← bound)
        return .choose condition yes (← readExpression fuel place)
      return condition

def readEither : (fuel : Nat) → Place → Reader Expression
  | 0, _ => unexpected
  | fuel + 1, place => do
    readEitherTail fuel place (← readBoth fuel place)

def readEitherTail : (fuel : Nat) → Place → Expression → Reader Expression
  | 0, _, left => return left
  | fuel + 1, place, left => do
    if ← accept "||" then
      skipLines (← bound)
      readEitherTail fuel place (.either left (← readBoth fuel place))
    else return left

def readBoth : (fuel : Nat) → Place → Reader Expression
  | 0, _ => unexpected
  | fuel + 1, place => do
    readBothTail fuel place (← readMember fuel place)

def readBothTail : (fuel : Nat) → Place → Expression → Reader Expression
  | 0, _, left => return left
  | fuel + 1, place, left => do
    if ← accept "&&" then
      skipLines (← bound)
      readBothTail fuel place (.both left (← readMember fuel place))
    else return left

def readMember : (fuel : Nat) → Place → Reader Expression
  | 0, _ => unexpected
  | fuel + 1, place => do
    readMemberTail fuel place (← readFits fuel place)

def readMemberTail : (fuel : Nat) → Place → Expression → Reader Expression
  | 0, _, left => return left
  | fuel + 1, place, left => do
    if place.members && (← isKeyword "in") then
      advance
      match ← token with
      | .name table =>
        advance
        readMemberTail fuel place (.member [left] table)
      | _ => unexpected
    else return left

def readFits : (fuel : Nat) → Place → Reader Expression
  | 0, _ => unexpected
  | fuel + 1, place => do
    readFitsTail fuel place (← readComparison fuel place)

def readFitsTail : (fuel : Nat) → Place → Expression → Reader Expression
  | 0, _, left => return left
  | fuel + 1, place, left => do
    if ← accept "~" then
      readFitsTail fuel place (.fits false left (← readComparison fuel place))
    else if ← accept "!~" then
      readFitsTail fuel place (.fits true left (← readComparison fuel place))
    else return left

def readComparison : (fuel : Nat) → Place → Reader Expression
  | 0, _ => unexpected
  | fuel + 1, place => do
    let left ← readJoin fuel place
    match comparison? place (← token) with
    | some comparison =>
      advance
      return .compare comparison left (← readJoin fuel place)
    | none => return left

def readJoin : (fuel : Nat) → Place → Reader Expression
  | 0, _ => unexpected
  | fuel + 1, place => do
    readJoinTail fuel place (← readSum fuel place)

def readJoinTail : (fuel : Nat) → Place → Expression → Reader Expression
  | 0, _, left => return left
  | fuel + 1, place, left => do
    if joins (← token) then
      readJoinTail fuel place (.join left (← readSum fuel place))
    else return left

def readSum : (fuel : Nat) → Place → Reader Expression
  | 0, _ => unexpected
  | fuel + 1, place => do
    readSumTail fuel place (← readProduct fuel place)

def readSumTail : (fuel : Nat) → Place → Expression → Reader Expression
  | 0, _, left => return left
  | fuel + 1, place, left => do
    match sum? (← token) with
    | some operator =>
      advance
      readSumTail fuel place (.arithmetic operator left (← readProduct fuel place))
    | none => return left

def readProduct : (fuel : Nat) → Place → Reader Expression
  | 0, _ => unexpected
  | fuel + 1, place => do
    readProductTail fuel place (← readSigned fuel place)

def readProductTail : (fuel : Nat) → Place → Expression → Reader Expression
  | 0, _, left => return left
  | fuel + 1, place, left => do
    match product? (← token) with
    | some operator =>
      advance
      readProductTail fuel place (.arithmetic operator left (← readSigned fuel place))
    | none => return left

def readSigned : (fuel : Nat) → Place → Reader Expression
  | 0, _ => unexpected
  | fuel + 1, place => do
    if ← accept "!" then return .signed .negation (← readSigned fuel place)
    else if ← accept "-" then return .signed .minus (← readSigned fuel place)
    else if ← accept "+" then return .signed .plus (← readSigned fuel place)
    else readPower fuel place

def readPower : (fuel : Nat) → Place → Reader Expression
  | 0, _ => unexpected
  | fuel + 1, place => do
    let base ← readStepped fuel place
    if ← accept "^" then
      return .arithmetic .power base (← readSigned fuel place)
    return base

def readStepped : (fuel : Nat) → Place → Reader Expression
  | 0, _ => unexpected
  | fuel + 1, place => do
    let operand ← readOperand fuel place
    if !operand.isTarget then return operand
    if ← accept "++" then return .step operand true false
    if ← accept "--" then return .step operand false false
    return operand

/-- Expressions between commas, up to a closing symbol. -/
def readArguments : (fuel : Nat) → (close : String) → Reader (List Expression)
  | 0, _ => unexpected
  | fuel + 1, close => do
    skipLines (← bound)
    if ← accept close then return []
    let first ← readExpression fuel {}
    readMoreArguments fuel close [first]

/-- More expressions between commas; the others stand last first. -/
def readMoreArguments : (fuel : Nat) → (close : String) → List Expression →
    Reader (List Expression)
  | 0, _, _ => unexpected
  | fuel + 1, close, earlier => do
    skipLines (← bound)
    if ← accept close then return earlier.reverse
    expect ","
    skipLines (← bound)
    let next ← readExpression fuel {}
    readMoreArguments fuel close (next :: earlier)

def readOperand : (fuel : Nat) → Place → Reader Expression
  | 0, _ => unexpected
  | fuel + 1, place => do
    match ← token with
    | .number value =>
      advance
      return .number value
    | .text content =>
      advance
      return .text content
    | .regular content =>
      advance
      regular content
    | .symbol "$" =>
      advance
      if ← accept "++" then
        return .field (.step (← readOperand fuel place) true true)
      else if ← accept "--" then
        return .field (.step (← readOperand fuel place) false true)
      else if ← accept "-" then
        return .field (.signed .minus (← readOperand fuel place))
      else return .field (← readOperand fuel place)
    | .symbol "++" =>
      advance
      let target ← readOperand fuel place
      if !target.isTarget then unexpected
      return .step target true true
    | .symbol "--" =>
      advance
      let target ← readOperand fuel place
      if !target.isTarget then unexpected
      return .step target false true
    | .symbol "(" =>
      advance
      let first ← readExpression fuel {}
      if ← accept ")" then return .grouped first
      let indices ← readMoreArguments fuel ")" [first]
      if !(← isKeyword "in") then unexpected
      advance
      match ← token with
      | .name table =>
        advance
        return .member indices table
      | _ => unexpected
    | .name name =>
      advance
      if ← accept "[" then return .element name (← readArguments fuel "]")
      return .variable name
    | .call name =>
      advance
      expect "("
      return .call name (← readArguments fuel ")")
    | .builtin name =>
      advance
      if ← accept "(" then return .builtin name (← readArguments fuel ")")
      if name ≠ "length" then unexpected
      return .builtin name []
    | .keyword "getline" =>
      advance
      let target ← match ← token with
        | .name _ | .symbol "$" => some <$> readOperand fuel place
        | _ => pure none
      if ← accept "<" then return .nextRecord target (some (← readOperand fuel place))
      return .nextRecord target none
    | _ => unexpected

end

/-- Tries to read, and goes back if that fails. -/
def attempt {α : Type} (reader : Reader α) : Reader (Option α) := fun tokens =>
  match reader tokens with
  | .ok (value, rest) => .ok (some value, rest)
  | .error _ => .ok (none, tokens)

/-- Whether a list of things to be written ends here. -/
def endsList : Reader Bool := do
  match ← token with
  | .newline | .ending => return true
  | .symbol symbol => return symbol ∈ [";", "\x7d", ">", ">>", "|"]
  | _ => return false

/-- More things to be written, behind commas; the others stand last first. -/
def readOutputTail (depth : Nat) : (fuel : Nat) → List Expression → Reader (List Expression)
  | 0, _ => unexpected
  | fuel + 1, earlier => do
    if ← accept "," then
      skipLines (← bound)
      let next ← readExpression depth { greater := false }
      readOutputTail depth fuel (next :: earlier)
    else return earlier.reverse

/-- The things to be written and where to, behind the keyword. -/
def readOutput (depth : Nat) : Reader (List Expression × Destination) := do
  let listed : Reader (List Expression) := do
    expect "("
    let arguments ← readArguments depth ")"
    if arguments.isEmpty || !(← endsList) then unexpected
    return arguments
  let arguments ← if ← endsList then pure []
    else match ← attempt listed with
      | some arguments => pure arguments
      | none =>
        let first ← readExpression depth { greater := false }
        readOutputTail depth (← bound) [first]
  if ← accept ">" then
    return (arguments, .file (← readJoin depth { greater := false }) false)
  if ← accept ">>" then
    return (arguments, .file (← readJoin depth { greater := false }) true)
  return (arguments, .output)

def readSimple (depth : Nat) : Reader Statement := do
  match ← token with
  | .keyword "print" =>
    advance
    let (arguments, destination) ← readOutput depth
    return .print arguments destination
  | .keyword "printf" =>
    advance
    let (arguments, destination) ← readOutput depth
    if arguments.isEmpty then unexpected
    return .printFormatted arguments destination
  | .keyword "delete" =>
    advance
    match ← token with
    | .name table =>
      advance
      if ← accept "[" then return .delete table (some (← readArguments depth "]"))
      return .delete table none
    | _ => unexpected
  | _ => return .evaluate (← readExpression depth {})

mutual

def readStatement (depth : Nat) : (fuel : Nat) → Reader (List Statement)
  | 0 => unexpected
  | fuel + 1 => do
    let condition : Reader Expression := do
      expect "("
      let condition ← readExpression depth {}
      expect ")"
      return condition
    let optional : Reader (Option Expression) := do
      if ← endsList then return none
      return some (← readExpression depth {})
    match ← token with
    | .symbol "\x7b" =>
      advance
      let body ← readStatements depth fuel
      skipEnds (← bound)
      return [.block body]
    | .symbol ";" =>
      advance
      skipLines (← bound)
      return []
    | .keyword "if" =>
      advance
      let condition ← condition
      let yes ← readBody depth fuel
      let rest ← get
      skipEnds (← bound)
      if ← isKeyword "else" then
        advance
        let no ← readBody depth fuel
        return [.branch condition yes no]
      set rest
      return [.branch condition yes []]
    | .keyword "while" =>
      advance
      let condition ← condition
      return [.loop condition (← readBody depth fuel) false]
    | .keyword "do" =>
      advance
      let body ← readBody depth fuel
      skipEnds (← bound)
      if !(← isKeyword "while") then unexpected
      advance
      let condition ← condition
      endStatement
      return [.loop condition body true]
    | .keyword "for" =>
      advance
      expect "("
      readFor depth fuel
    | .keyword "break" =>
      advance
      endStatement
      return [.stop]
    | .keyword "continue" =>
      advance
      endStatement
      return [.proceed]
    | .keyword "next" =>
      advance
      endStatement
      return [.next]
    | .keyword "nextfile" =>
      advance
      endStatement
      return [.nextFile]
    | .keyword "exit" =>
      advance
      let status ← optional
      endStatement
      return [.leave status]
    | .keyword "return" =>
      advance
      let value ← optional
      endStatement
      return [.give value]
    | _ =>
      let statement ← readSimple depth
      endStatement
      return [statement]

def readBody (depth : Nat) : (fuel : Nat) → Reader (List Statement)
  | 0 => unexpected
  | fuel + 1 => do
    skipLines (← bound)
    readStatement depth fuel

def readFor (depth : Nat) : (fuel : Nat) → Reader (List Statement)
  | 0 => unexpected
  | fuel + 1 => do
    let overTable : Reader (String × String) := do
      match ← token with
      | .name name =>
        advance
        if !(← isKeyword "in") then unexpected
        advance
        match ← token with
        | .name table =>
          advance
          expect ")"
          return (name, table)
        | _ => unexpected
      | _ => unexpected
    match ← attempt overTable with
    | some (name, table) => return [.each name table (← readBody depth fuel)]
    | none =>
      let start ← if ← isSymbol ";" then pure [] else ([·]) <$> readSimple depth
      expect ";"
      skipLines (← bound)
      let condition ← if ← isSymbol ";" then pure none
        else some <$> readExpression depth {}
      expect ";"
      skipLines (← bound)
      let step ← if ← isSymbol ")" then pure [] else ([·]) <$> readSimple depth
      expect ")"
      return [.counted start condition step (← readBody depth fuel)]

def readStatements (depth : Nat) : (fuel : Nat) → Reader (List Statement)
  | 0 => unexpected
  | fuel + 1 => do
    skipEnds (← bound)
    if ← accept "\x7d" then return []
    let first ← readStatement depth fuel
    return first ++ (← readStatements depth fuel)

end

/-- Names between commas, up to a closing parenthesis. -/
def readParameters : (fuel : Nat) → Reader (List String)
  | 0 => unexpected
  | fuel + 1 => do
    skipLines (← bound)
    if ← accept ")" then return []
    match ← token with
    | .name name =>
      advance
      skipLines (← bound)
      if !(← accept ",") && !(← isSymbol ")") then unexpected
      return name :: (← readParameters fuel)
    | _ => unexpected

def readAction (depth : Nat) : Reader (List Statement) := do
  expect "\x7b"
  readStatements depth depth

def readFunction (depth : Nat) : Reader Function := do
  let name ← match ← token with
    | .name name | .call name => pure name
    | _ => unexpected
  advance
  expect "("
  let parameters ← readParameters (← bound)
  skipLines (← bound)
  return { name, parameters, body := ← readAction depth }

def readRule (depth : Nat) : Reader Rule := do
  match ← token with
  | .keyword "BEGIN" =>
    advance
    return { pattern := .first, body := some (← readAction depth) }
  | .keyword "END" =>
    advance
    return { pattern := .last, body := some (← readAction depth) }
  | .symbol "\x7b" => return { pattern := .always, body := some (← readAction depth) }
  | _ =>
    let first ← readExpression depth {}
    let last ← if ← accept "," then
        skipLines (← bound)
        some <$> readExpression depth {}
      else pure none
    let pattern := match last with
      | some last => Pattern.range first last
      | none => .when first
    if ← isSymbol "\x7b" then return { pattern, body := some (← readAction depth) }
    return { pattern, body := none }

def readScript (depth : Nat) : (fuel : Nat) → Script → Reader Script
  | 0, script => return script
  | fuel + 1, script => do
    skipEnds (← bound)
    match ← token with
    | .ending => return script
    | .keyword "function" =>
      advance
      let function ← readFunction depth
      readScript depth fuel { script with functions := script.functions ++ [function] }
    | _ =>
      let rule ← readRule depth
      let script := { script with rules := script.rules ++ [rule] }
      match ← token with
      | .newline | .symbol ";" | .ending => readScript depth fuel script
      | .symbol "\x7d" => unexpected
      | _ =>
        match rule.body with
        | some _ => readScript depth fuel script
        | none => unexpected

def parse (text : List Char) : Except Fault Script := do
  let tokens ← tokens (text.length + 1) none 1 text
  let depth := 20 * tokens.length + 20
  return (← (readScript depth (tokens.length + 1) {}).run tokens).1

end ArtifactRelease.Shell.Awk
