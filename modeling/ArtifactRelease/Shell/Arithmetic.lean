import ArtifactRelease.Number.Decimal
import ArtifactRelease.Shell.Token

/-!
# Arithmetic in shell scripts

Expressions over integers of 64 bits, with the operators that bind in ten levels, choices and
assignments to variables.  A comparison is one or zero.
-/

namespace ArtifactRelease.Shell.Arithmetic

inductive Symbol where
  | number (value : Nat)
  | name (text : String)
  | sign (text : String)
  deriving Repr, DecidableEq

def hexDigit? (c : Char) : Option Nat :=
  if c.isDigit then some (c.toNat - 48)
  else if 'a' ≤ c.toLower && c.toLower ≤ 'f' then some (c.toLower.toNat - 87)
  else none

def valueIn (base : Nat) (digits : List Char) : Nat :=
  digits.foldl (fun value c => value * base + (hexDigit? c).getD 0) 0

/-- Reads a number: hexadecimal behind `0x`, octal behind a zero, decimal otherwise. -/
def readNumber (text : List Char) : Nat × List Char :=
  let octal (c : Char) : Bool := '0' ≤ c && c ≤ '7'
  let hexadecimal (c : Char) : Bool := (hexDigit? c).isSome
  match text with
  | '0' :: x :: digit :: rest =>
    if x.toLower = 'x' && hexadecimal digit then
      (valueIn 16 (digit :: rest.takeWhile hexadecimal), rest.dropWhile hexadecimal)
    else
      let rest := x :: digit :: rest
      (valueIn 8 (rest.takeWhile octal), rest.dropWhile octal)
  | '0' :: rest => (valueIn 8 (rest.takeWhile octal), rest.dropWhile octal)
  | _ => (valueIn 10 (text.takeWhile Char.isDigit), text.dropWhile Char.isDigit)

/-- The operators of more than one character, longer ones first. -/
def longSigns : List (List Char) :=
  ["<<=", ">>=", "<=", ">=", "==", "!=", "&&", "||", "<<", ">>", "+=", "-=", "*=", "/=", "%=", "&=",
    "^=", "|="].map String.toList

def symbols : (fuel : Nat) → List Char → List Symbol
  | 0, _ => []
  | _, [] => []
  | fuel + 1, c :: rest =>
    if c.isDigit then
      let (value, rest) := readNumber (c :: rest)
      .number value :: symbols fuel rest
    else if isNameStart c then
      .name (String.ofList (c :: rest.takeWhile isNameChar))
        :: symbols fuel (rest.dropWhile isNameChar)
    else if c ∈ [' ', '\t', '\n'] then symbols fuel rest
    else match longSigns.find? (·.isPrefixOf (c :: rest)) with
      | some sign => .sign (String.ofList sign) :: symbols fuel ((c :: rest).drop sign.length)
      | none => .sign (String.singleton c) :: symbols fuel rest

inductive Expression where
  | number (value : Int)
  | parameter (name : String)
  | unary (operator : String) (operand : Expression)
  | binary (operator : String) (left right : Expression)
  | choice (condition first second : Expression)
  | assign (operator : String) (name : String) (value : Expression)
  /-- Something else should follow; what comes before it is worked out first. -/
  | lacking (before : Expression) (reason : String)
  deriving Repr

namespace Expression

def missing : Expression :=
  .lacking (.number 0) "expecting primary"

end Expression

def levels : List (List String) :=
  [["||"], ["&&"], ["|"], ["^"], ["&"], ["==", "!="], ["<", "<=", ">", ">="], ["<<", ">>"],
    ["+", "-"], ["*", "/", "%"]]

/-- The operator that an assignment applies first. -/
def assigning? : String → Option String
  | "=" => some ""
  | "+=" => some "+"
  | "-=" => some "-"
  | "*=" => some "*"
  | "/=" => some "/"
  | "%=" => some "%"
  | "<<=" => some "<<"
  | ">>=" => some ">>"
  | "&=" => some "&"
  | "^=" => some "^"
  | "|=" => some "|"
  | _ => none

/-- The largest number that is read; a larger one is read as this. -/
def largest : Nat := 9223372036854775807

/-- An expression, and the symbols behind it.  There are none left behind an expression that lacks
something. -/
abbrev Parsed := Expression × List Symbol

mutual

/-- Reads an assignment, or else a choice. -/
def readAssignment : (fuel : Nat) → List Symbol → Parsed
  | 0, _ => (.missing, [])
  | fuel + 1, text =>
    match text with
    | .name name :: .sign sign :: rest =>
      match assigning? sign with
      | some operator =>
        let (value, rest) := readAssignment fuel rest
        (.assign operator name value, rest)
      | none => readChoice fuel text
    | _ => readChoice fuel text

def readChoice : (fuel : Nat) → List Symbol → Parsed
  | 0, _ => (.missing, [])
  | fuel + 1, text =>
    let (condition, rest) := readLevel fuel levels text
    match rest with
    | .sign "?" :: rest =>
      let (first, rest) := readAssignment fuel rest
      match rest with
      | .sign ":" :: rest =>
        let (second, rest) := readChoice fuel rest
        (.choice condition first second, rest)
      | _ => (.choice condition first (.lacking (.number 0) "expecting ':'"), [])
    | _ => (condition, rest)

/-- Reads operands joined by the operators of the given levels. -/
def readLevel : (fuel : Nat) → List (List String) → List Symbol → Parsed
  | 0, _, _ => (.missing, [])
  | fuel + 1, [], text => readOperand fuel text
  | fuel + 1, operators :: tighter, text =>
    let (left, rest) := readLevel fuel tighter text
    readTail fuel operators tighter left rest

/-- Goes on from a left operand; the operators of a level bind to the left. -/
def readTail : (fuel : Nat) → List String → List (List String) → Expression → List Symbol → Parsed
  | 0, _, _, _, _ => (.missing, [])
  | fuel + 1, operators, tighter, left, text =>
    match text with
    | .sign operator :: rest =>
      if operator ∈ operators then
        let (right, rest) := readLevel fuel tighter rest
        readTail fuel operators tighter (.binary operator left right) rest
      else (left, text)
    | _ => (left, text)

def readOperand : (fuel : Nat) → List Symbol → Parsed
  | 0, _ => (.missing, [])
  | fuel + 1, text =>
    match text with
    | .number value :: rest => (.number (min value largest), rest)
    | .name name :: rest => (.parameter name, rest)
    | .sign "(" :: rest =>
      let (inner, rest) := readAssignment fuel rest
      match rest with
      | .sign ")" :: rest => (inner, rest)
      | _ => (.lacking inner "expecting ')'", [])
    | .sign sign :: rest =>
      if sign ∈ ["-", "+", "!", "~"] then
        let (operand, rest) := readOperand fuel rest
        (.unary sign operand, rest)
      else (.missing, [])
    | [] => (.missing, [])

end

def read (text : List Char) : Expression :=
  let symbols := symbols text.length text
  match readAssignment (32 * symbols.length + 32) symbols with
  | (expression, []) => expression
  | (expression, _) => .lacking expression "expecting EOF"

def wrap (value : Int) : Int :=
  value.bmod 18446744073709551616

def bits (value : Int) : Nat :=
  (value.emod 18446744073709551616).toNat

def truth (condition : Bool) : Int :=
  if condition then 1 else 0

/-- Applies an operator; division goes toward zero, and there is none by zero. -/
def combine (operator : String) (left right : Int) : Except String Int :=
  match operator with
  | "+" => .ok (wrap (left + right))
  | "-" => .ok (wrap (left - right))
  | "*" => .ok (wrap (left * right))
  | "/" => if right = 0 then .error "division by zero" else .ok (wrap (left.tdiv right))
  | "%" => if right = 0 then .error "division by zero" else .ok (left.tmod right)
  | "<" => .ok (truth (left < right))
  | "<=" => .ok (truth (left ≤ right))
  | ">" => .ok (truth (right < left))
  | ">=" => .ok (truth (right ≤ left))
  | "==" => .ok (truth (left = right))
  | "!=" => .ok (truth (left ≠ right))
  | "&" => .ok (wrap (bits left &&& bits right : Nat))
  | "|" => .ok (wrap (bits left ||| bits right : Nat))
  | "^" => .ok (wrap (bits left ^^^ bits right : Nat))
  | "<<" => .ok (wrap (left * (Nat.pow 2 (bits right % 64) : Nat)))
  | ">>" => .ok (left.fdiv (Nat.pow 2 (bits right % 64) : Nat))
  | _ => .ok right

/-- What can go wrong when an expression is worked out. -/
inductive Problem where
  | malformed (reason : String)
  | noNumber (text : String)
  /-- A variable that is fixed was to be given a value. -/
  | fixed (name : String)
  deriving Repr, DecidableEq

/-- The variables as they are before an expression is worked out. -/
structure Variables where
  held : String → Except Problem Int
  isFixed : String → Bool

/-- Values that variables have got so far, the last first. -/
abbrev Assigned := List (String × Int)

/-- Working out an expression gives variables values, also those before something goes wrong. -/
abbrev Work := ExceptT Problem (StateM Assigned)

namespace Variables

def value (known : Variables) (name : String) : Work Int := do
  match (← get).find? (·.1 = name) with
  | some (_, value) => return value
  | none => ExceptT.mk (pure (known.held name))

def assign (known : Variables) (name : String) (value : Int) : Work Unit := do
  if known.isFixed name then throw (.fixed name)
  modify ((name, value) :: ·)

end Variables

def combined (operator : String) (left right : Int) : Work Int :=
  ExceptT.mk (pure ((combine operator left right).mapError .malformed))

/-- Works out an expression from the left to the right.  What a choice or a connective leaves out is
`skipped`: it has no effect, but it has to be complete. -/
def evaluate (known : Variables) : (skipped : Bool) → Expression → Work Int
  | _, .number value => return value
  | skipped, .parameter name => if skipped then return 0 else known.value name
  | skipped, .unary operator operand => do
    let value ← evaluate known skipped operand
    return match operator with
      | "-" => wrap (-value)
      | "!" => truth (value = 0)
      | "~" => -value - 1
      | _ => value
  | skipped, .binary "&&" left right => do
    let first ← evaluate known skipped left
    let second ← evaluate known (skipped || first = 0) right
    return truth (first ≠ 0 && second ≠ 0)
  | skipped, .binary "||" left right => do
    let first ← evaluate known skipped left
    let second ← evaluate known (skipped || first ≠ 0) right
    return truth (first ≠ 0 || second ≠ 0)
  | skipped, .binary operator left right => do
    let first ← evaluate known skipped left
    let second ← evaluate known skipped right
    if skipped then return 0 else combined operator first second
  | skipped, .choice condition first second => do
    let chosen ← evaluate known skipped condition
    let onSuccess ← evaluate known (skipped || chosen = 0) first
    let onFailure ← evaluate known (skipped || chosen ≠ 0) second
    return if chosen ≠ 0 then onSuccess else onFailure
  | skipped, .assign operator name value => do
    let result ← evaluate known skipped value
    if skipped then return result
    let result ← if operator.isEmpty then pure result
      else do combined operator (← known.value name) result
    known.assign name result
    return result
  | skipped, .lacking before reason => do
    let _ ← evaluate known skipped before
    throw (.malformed reason)

/-- The value of an expression, and the variables it assigned, last first. -/
def run (known : Variables) (text : List Char) : Except Problem Int × Assigned :=
  (evaluate known false (read text)).run.run []

end ArtifactRelease.Shell.Arithmetic
