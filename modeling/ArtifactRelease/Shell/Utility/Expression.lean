import ArtifactRelease.Shell.Regular.Reader
import ArtifactRelease.Shell.Utility.Request

/-!
# A calculator for words

The words of a command line are an expression over numbers and texts.  It is worked out while it is
read, so that of two faults the one further left is reported; what no result depends on is read
only.
-/

namespace ArtifactRelease.Shell.Utility

namespace Expression

/-- What is left of the words, and the word before them. -/
structure Words where
  left : List String
  last : String := ""

def integer? (text : String) : Option Int :=
  if text.toList.head? = some '+' then none else signed? text

/-- Whether a value counts as false: an empty text, or a zero. -/
def isNull (text : String) : Bool :=
  text.isEmpty || (integer? text = some 0)

def calculate (f : Int → Int → Int) (left right : String) : Except String String :=
  match integer? left, integer? right with
  | some first, some second => .ok (toString (f first second))
  | _, _ => .error "non-integer argument"

/-- Compares numbers by value, and everything else byte by byte. -/
def compared (test : Ordering → Bool) (left right : String) : String :=
  let ordering := match integer? left, integer? right with
    | some first, some second => Ord.compare first second
    | _, _ =>
      if left = right then .eq
      else if inOrder (bytesOf left.toList) (bytesOf right.toList) then .lt else .gt
  if test ordering then "1" else "0"

/-- What an expression fits at the start of a text: the first group, or else how much it is. -/
def fitted (text expression : String) : Except String String := do
  match Regular.parse { strict := true } expression.toList with
  | .error fault => throw fault.message
  | .ok regular =>
    let text := text.toList
    match regular.fitAt? {} text none text 0, regular.groupCount != 0 with
    | some found, true => return String.ofList (found.text text 1)
    | some found, false => return toString found.length
    | none, true => return ""
    | none, false => return "0"

/-- A part of a text, by the position of its first character and its length. -/
def part (text position length : String) : String :=
  match integer? position, integer? length with
  | some position, some length =>
    if position ≤ 0 || length ≤ 0 then ""
    else String.ofList ((text.toList.drop (position - 1).toNat).take length.toNat)
  | _, _ => ""

/-- The first position of one of some characters, counted from one. -/
def position (text characters : String) : String :=
  match text.toList.findIdx? (· ∈ characters.toList) with
  | some index => toString (index + 1)
  | none => "0"

def levels : List (List String) :=
  [["|"], ["&"], ["<", "<=", "=", "==", "!=", ">=", ">"], ["+", "-"], ["*", "/", "%"], [":"]]

def combine (operator left right : String) : Except String String :=
  match operator with
  | "|" => .ok (if !isNull left then left else if !isNull right then right else "0")
  | "&" => .ok (if isNull left || isNull right then "0" else left)
  | "<" => .ok (compared (· = .lt) left right)
  | "<=" => .ok (compared (· ≠ .gt) left right)
  | "=" | "==" => .ok (compared (· = .eq) left right)
  | "!=" => .ok (compared (· ≠ .eq) left right)
  | ">=" => .ok (compared (· ≠ .lt) left right)
  | ">" => .ok (compared (· = .gt) left right)
  | "+" => calculate (· + ·) left right
  | "-" => calculate (· - ·) left right
  | "*" => calculate (· * ·) left right
  | ":" => fitted left right
  | _ =>
    if integer? right = some 0 && (integer? left).isSome then .error "division by zero"
    else calculate (fun first second =>
      if operator = "/" then first.tdiv second else first.tmod second) left right

/-- Whether the right side of an operator is worked out. -/
def needsRight (operator left : String) : Bool :=
  match operator with
  | "|" => isNull left
  | "&" => !isNull left
  | _ => true

/-- The next word, which has to be there. -/
def next (words : Words) : Except String (String × Words) :=
  match words.left with
  | word :: left => .ok (word, { left, last := word })
  | [] => .error s!"syntax error: missing argument after '{words.last}'"

mutual

/-- Works out operands joined by the operators of the given levels. -/
def level : (fuel : Nat) → (counts : Bool) → List (List String) → Words →
    Except String (String × Words)
  | 0, _, _, _ => .error "syntax error"
  | fuel + 1, counts, [], words => operand fuel counts words
  | fuel + 1, counts, operators :: tighter, words => do
    let (left, words) ← level fuel counts tighter words
    tail fuel counts operators tighter left words

/-- Goes on behind an operand, as long as operators follow. -/
def tail : (fuel : Nat) → (counts : Bool) → List String → List (List String) → String → Words →
    Except String (String × Words)
  | 0, _, _, _, _, _ => .error "syntax error"
  | fuel + 1, counts, operators, tighter, left, words =>
    match words.left with
    | operator :: later =>
      if operator ∈ operators then do
        let (right, words) ← level fuel (counts && needsRight operator left) tighter
          { left := later, last := operator }
        let value ← if counts then combine operator left right else pure left
        tail fuel counts operators tighter value words
      else .ok (left, words)
    | [] => .ok (left, words)

def operand : (fuel : Nat) → (counts : Bool) → Words → Except String (String × Words)
  | 0, _, _ => .error "syntax error"
  | fuel + 1, counts, words => do
    let (word, later) ← next words
    match word with
    | "+" => next later
    | "length" =>
      let (text, words) ← operand fuel counts later
      return (toString text.length, words)
    | "match" =>
      let (text, words) ← operand fuel counts later
      let (expression, words) ← operand fuel counts words
      let value ← if counts then fitted text expression else pure text
      return (value, words)
    | "index" =>
      let (text, words) ← operand fuel counts later
      let (characters, words) ← operand fuel counts words
      return (position text characters, words)
    | "substr" =>
      let (text, words) ← operand fuel counts later
      let (start, words) ← operand fuel counts words
      let (length, words) ← operand fuel counts words
      return (part text start length, words)
    | "(" =>
      let (inner, words) ← level fuel counts levels later
      match words.left with
      | ")" :: left => return (inner, { left, last := ")" })
      | other :: _ => throw s!"syntax error: expecting ')' instead of {inQuotes other}"
      | [] => throw s!"syntax error: expecting ')' after '{words.last}'"
    | ")" => throw "syntax error: unexpected ')'"
    | _ => return (word, later)

end

end Expression

def expr : Utility := fun request =>
  let arguments :=
    if request.arguments.head? = some "--" then request.arguments.drop 1 else request.arguments
  let failed (reason : String) : Response :=
    { errors := [s!"{request.name}: {reason}"], status := 2 }
  if arguments.isEmpty then request.misused 2 "missing operand"
  else match Expression.level (20 * arguments.length + 20) true Expression.levels
      { left := arguments } with
    | .ok (value, { left := [], last := _ }) =>
      { output := text (value ++ "\n").toList
        status := if Expression.isNull value then 1 else 0 }
    | .ok (_, { left := extra :: _, last := _ }) =>
      failed s!"syntax error: unexpected argument {inQuotes extra}"
    | .error reason => failed reason

end ArtifactRelease.Shell.Utility
