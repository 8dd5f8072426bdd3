import ArtifactRelease.Shell.Expansion

/-!
# Tests

The conditions of `test` and `[`: on texts, numbers and files, with `!`, `-a`, `-o` and parentheses.
-/

namespace ArtifactRelease.Shell.Test

inductive Problem where
  | about (operator : String) (reason : String)
  | illegalNumber (text : String)
  | closingExpected
  deriving Repr, DecidableEq

def Problem.message : Problem → String
  | about operator reason => if operator.isEmpty then reason else s!"{operator}: {reason}"
  | illegalNumber text => s!"Illegal number: {text}"
  | closingExpected => "closing paren expected"

def unaryOperators : List String :=
  ["-b", "-c", "-d", "-e", "-f", "-g", "-G", "-h", "-k", "-L", "-n", "-O", "-p", "-r", "-s", "-S",
    "-t", "-u", "-w", "-x", "-z"]

def binaryOperators : List String :=
  ["=", "!=", "<", ">", "-eq", "-ne", "-gt", "-ge", "-lt", "-le", "-nt", "-ot", "-ef"]

/-- What a word is for a test that stands in front of the given words. -/
inductive Role where
  | nothing
  | unary
  | binary
  | negation
  | conjunction
  | disjunction
  | opening
  | closing
  | operand
  deriving Repr, DecidableEq

/-- A unary operator is an operand if nothing follows it or a binary operator does. -/
def role (words : List String) : Role :=
  match words with
  | [] => .nothing
  | word :: later =>
    if word ∈ unaryOperators then
      match later with
      | [] => .operand
      | [_] => .unary
      | second :: _ => if second ∈ binaryOperators then .operand else .unary
    else if word ∈ binaryOperators then .binary
    else match word with
      | "!" => .negation
      | "-a" => .conjunction
      | "-o" => .disjunction
      | "(" => if later.isEmpty then .operand else .opening
      | ")" => .closing
      | _ => .operand

structure View where
  directory : Path
  system : FileSystem

def View.place (view : View) (text : String) : Place :=
  ((view.system.find view.directory text).toOption).getD .missing

/-- The path that an operand names, if something is there; other names for a program count as its
own. -/
def View.path? (view : View) (text : String) : Option Path :=
  match view.system.locate view.directory text with
  | .ok path =>
    if view.system.place path = .missing then none else some (FileSystem.unlinked path)
  | .error _ => none

/-- Whether a file was changed later than another; both have to be there.  What was there from the
start is older than what was made. -/
def View.isNewer (view : View) (first second : String) : Bool :=
  let age (path : Path) : Nat :=
    ((view.system.made.map (·.1)).findIdx? (· = path)).getD view.system.made.length
  match view.path? first, view.path? second with
  | some first, some second => age first < age second
  | _, _ => false

def onFile (view : View) (operator operand : String) : Bool :=
  match operator with
  | "-d" => view.place operand = .directory
  | "-f" => match view.place operand with
    | .file _ | .program _ => true
    | _ => false
  | "-c" => match view.place operand with
    | .device _ | .descriptor 0 => true
    | _ => false
  | "-p" => match view.place operand with
    | .descriptor number => 0 < number
    | _ => false
  | "-s" => match view.place operand with
    | .file content => !content.isEmpty
    | .program _ | .directory => true
    | _ => false
  | "-x" => match view.place operand with
    | .program _ | .directory => true
    | _ => false
  | "-e" | "-r" | "-w" | "-O" | "-G" => view.place operand ≠ .missing
  | "-h" | "-L" => view.system.isLink view.directory operand
  | "-k" => view.path? operand ∈ [some ["tmp"], some ["var", "tmp"]]
  | _ => false

def integer (text : String) : Except Problem Int :=
  if text.isEmpty then .error (.illegalNumber text)
  else
    let blank (c : Char) : Bool := c = ' ' || c = '\t' || c = '\n'
    let trimmed := (text.toList.dropWhile blank).reverse.dropWhile blank |>.reverse
    let (negative, digits) := match trimmed with
      | '-' :: digits => (true, digits)
      | '+' :: digits => (false, digits)
      | digits => (false, digits)
    if !digits.isEmpty && digits.all Char.isDigit then
      let magnitude : Int := Number.ofDigits digits
      let value := if negative then -magnitude else magnitude
      if Arithmetic.wrap value = value then .ok value else .error (.illegalNumber text)
    else .error (.illegalNumber text)

def compared (view : View) (left operator right : String) : Except Problem Bool := do
  match operator with
  | "=" => return left = right
  | "!=" => return left ≠ right
  | "<" => return textBefore left.toList right.toList
  | ">" => return textBefore right.toList left.toList
  | "-nt" => return view.isNewer left right
  | "-ot" => return view.isNewer right left
  | "-ef" => return (view.path? left).isSome && view.path? left = view.path? right
  | _ =>
    let first ← integer left
    let second ← integer right
    match operator with
    | "-eq" => return first = second
    | "-ne" => return first ≠ second
    | "-gt" => return second < first
    | "-ge" => return second ≤ first
    | "-lt" => return first < second
    | _ => return first ≤ second
where
  textBefore : List Char → List Char → Bool
    | _, [] => false
    | [], _ :: _ => true
    | first :: left, second :: right =>
      first.toNat < second.toNat || (first = second && textBefore left right)

abbrev Judged := Except Problem (Bool × List String)

mutual

/-- Judges conditions with `-o` between them.  The words left over start with the last one used. -/
def disjunction (view : View) : (fuel : Nat) → Role → List String → Judged
  | 0, _, words => .ok (false, words)
  | fuel + 1, first, words => do
    let (left, words) ← conjunction view fuel first words
    if role words.tail = .disjunction then
      let words := words.drop 2
      let (right, words) ← disjunction view fuel (role words) words
      return (left || right, words)
    else return (left, words)

def conjunction (view : View) : (fuel : Nat) → Role → List String → Judged
  | 0, _, words => .ok (false, words)
  | fuel + 1, first, words => do
    let (left, words) ← negation view fuel first words
    if role words.tail = .conjunction then
      let words := words.drop 2
      let (right, words) ← conjunction view fuel (role words) words
      return (left && right, words)
    else return (left, words)

def negation (view : View) : (fuel : Nat) → Role → List String → Judged
  | 0, _, words => .ok (false, words)
  | fuel + 1, first, words => do
    if first = .negation then
      let next := role words.tail
      let (inner, words) ← negation view fuel next (if next = .nothing then words else words.tail)
      return (!inner, words)
    else primary view fuel first words

def primary (view : View) : (fuel : Nat) → Role → List String → Judged
  | 0, _, words => .ok (false, words)
  | fuel + 1, first, words =>
    match first, words with
    | .nothing, _ => .ok (false, words)
    | .opening, _ :: words =>
      if role words = .closing then .ok (false, words)
      else do
        let (inner, words) ← disjunction view fuel (role words) words
        if role words.tail = .closing then return (inner, words.tail)
        else throw .closingExpected
    | .unary, operator :: words =>
      match words with
      | [] => .error (.about operator "argument expected")
      | operand :: _ =>
        match operator with
        | "-z" => .ok (operand.isEmpty, words)
        | "-n" => .ok (!operand.isEmpty, words)
        -- no descriptor leads to a terminal
        | "-t" => (integer operand).map fun _ => (false, words)
        | _ => .ok (onFile view operator operand, words)
    | _, left :: operator :: rest =>
      if role (operator :: rest) = .binary then
        match rest with
        | [] => .error (.about operator "argument expected")
        | right :: _ => do return (← compared view left operator right, rest)
      else .ok (!left.isEmpty, words)
    | _, [left] => .ok (!left.isEmpty, words)
    | _, [] => .ok (false, words)

end

/-- How a test of a few words is read: whether it is negated as a whole, what its first word is for
it, and the words.  Further negations in front change nothing. -/
def arranged (negated : Bool) (words : List String) : Bool × Role × List String :=
  let inner := words.drop 1 |>.dropLast
  let closed : Bool := words.head? = some "(" && words.getLast? = some ")"
  match words with
  | [first, second, third] =>
    if second ∈ binaryOperators then (negated, .operand, words)
    else if closed then (negated, role inner, inner)
    else if first = "!" then (true, role [second, third], [second, third])
    else (negated, role words, words)
  | [first, second, third, fourth] =>
    if closed then (negated, role inner, inner)
    else if first = "!" then arranged true [second, third, fourth]
    else (negated, role words, words)
  | _ => (negated, role words, words)
termination_by words.length

def judge (view : View) (words : List String) : Except Problem Bool := do
  let (negated, first, words) := arranged false words
  let (truth, rest) ← disjunction view (8 * words.length + 8) first words
  match rest with
  | word :: _ :: _ => throw (.about word "unexpected operator")
  | _ => return truth != negated

end ArtifactRelease.Shell.Test
