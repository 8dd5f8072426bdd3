import ArtifactRelease.Shell.Floating
import ArtifactRelease.Shell.Regular.Reader

/-!
# Words of record scripts

A slash starts an expression to search for, unless the token before it can end an operand.
-/

namespace ArtifactRelease.Shell.Awk

inductive Token where
  | number (value : Float)
  | text (content : String)
  | regular (content : List Char)
  | name (name : String)
  /-- A name with an opening parenthesis right behind it. -/
  | call (name : String)
  | builtin (name : String)
  | keyword (word : String)
  | symbol (symbol : String)
  | newline
  | ending

/-- A token with its line, and its text for complaints. -/
structure Located where
  token : Token
  line : Nat
  shown : String

structure Fault where
  line : Nat
  message : String

def keywords : List String :=
  ["BEGIN", "END", "function", "if", "else", "while", "for", "do", "break", "continue", "next",
    "nextfile", "exit", "return", "delete", "in", "getline", "print", "printf"]

def builtins : List String :=
  ["length", "substr", "index", "split", "sub", "gsub", "match", "sprintf", "sin", "cos", "atan2",
    "exp", "log", "sqrt", "int", "rand", "srand", "tolower", "toupper", "close", "fflush"]

/-- The symbols, longer ones first. -/
def symbols : List String :=
  ["&&", "||", "++", "--", "+=", "-=", "*=", "/=", "%=", "^=", "==", "<=", ">=", "!=", "!~", ">>",
    "\x7b", "\x7d", "(", ")", "[", "]", ";", ",", "+", "-", "*", "/", "%", "^", "!", ">", "<", "|",
    "?", ":", "~", "$", "="]

def endsOperand : Option Token → Bool
  | some (.number _) | some (.text _) | some (.name _) => true
  | some (.builtin name) => name = "length"
  | some (.symbol symbol) => symbol ∈ [")", "]", "$", "++", "--"]
  | _ => false

def double : Floating → Float
  | .finite negative magnitude =>
    let value := match Number.Binary64.ofRatio? magnitude with
      | some double => Float.scaleB (Float.ofNat double.significand) double.exponent
      | none => 1.0 / 0.0
    if negative then -value else value
  | .infinite negative => if negative then -1.0 / 0.0 else 1.0 / 0.0
  | .notANumber _ => 0.0 / 0.0

/-- A text between quotes, behind the opening one, with what follows it. -/
def readText : (fuel : Nat) → List Char → Option (List Char × List Char)
  | 0, _ => none
  | _, [] => none
  | _, '"' :: rest => some ([], rest)
  | _, '\n' :: _ => none
  | fuel + 1, '\\' :: c :: rest =>
    let more (shown : List Char) (rest : List Char) : Option (List Char × List Char) :=
      (readText fuel rest).map fun (text, rest) => (shown ++ text, rest)
    match c with
    | '\n' => more [] rest
    | '"' | '\\' | '/' => more [c] rest
    | 'x' =>
      let digits := (rest.take 2).takeWhile fun c => (Shell.Arithmetic.hexDigit? c).isSome
      if digits.isEmpty then more ['\\', c] rest
      else
        more [Char.ofNat (Shell.Arithmetic.valueIn 16 digits)] (rest.drop digits.length)
    | _ =>
      match Regular.escapedLetter? c with
      | some character => more [character] rest
      | none =>
        let digits := ((c :: rest).take 3).takeWhile fun c => '0' ≤ c && c ≤ '7'
        if digits.isEmpty then more ['\\', c] rest
        else
          more [Char.ofNat (Shell.Arithmetic.valueIn 8 digits % 256)]
            ((c :: rest).drop digits.length)
  | fuel + 1, c :: rest => (readText fuel rest).map fun (text, rest) => (c :: text, rest)

/-- An expression between slashes, behind the opening one, with what follows it. -/
def readRegular : (fuel : Nat) → (bracket : Bool) → List Char → Option (List Char × List Char)
  | 0, _, _ => none
  | _, _, [] => none
  | _, _, '\n' :: _ => none
  | fuel + 1, bracket, c :: rest =>
    let more (shown : List Char) (bracket : Bool) (rest : List Char) :
        Option (List Char × List Char) :=
      (readRegular fuel bracket rest).map fun (text, rest) => (shown ++ text, rest)
    match c, rest with
    | '\\', '/' :: rest => more ['/'] bracket rest
    | '\\', next :: rest => more ['\\', next] bracket rest
    | '[', '^' :: ']' :: rest =>
      if bracket then more [c] true ('^' :: ']' :: rest) else more ['[', '^', ']'] true rest
    | '[', ']' :: rest => if bracket then more [c] true (']' :: rest) else more ['[', ']'] true rest
    | '[', rest => more [c] true rest
    | ']', rest => more [c] false rest
    | '/', rest => if bracket then more [c] bracket rest else some ([], rest)
    | c, rest => more [c] bracket rest

def isNameStart (c : Char) : Bool := c.isAlpha || c = '_'

def nameToken (name : String) (rest : List Char) : Token :=
  let name := if name = "func" then "function" else name
  if name ∈ keywords then .keyword name
  else if name ∈ builtins then .builtin name
  else if rest.head? = some '(' then .call name
  else .name name

/-- The next token of a text without blanks in front, and what follows it. -/
def readToken (last : Option Token) (line : Nat) (text : List Char) :
    Except Fault (Token × List Char) :=
  match text with
  | [] => .ok (.ending, [])
  | '\n' :: rest => .ok (.newline, rest)
  | '"' :: rest =>
    match readText (rest.length + 1) rest with
    | some (content, rest) => .ok (.text (String.ofList content), rest)
    | none =>
      let shown := String.ofList (('"' :: rest).takeWhile (· ≠ '\n') |>.take 10)
      .error ⟨line, s!"runaway string constant {shown} ..."⟩
  | c :: rest =>
    if c = '/' && !endsOperand last then
      match readRegular (rest.length + 1) false rest with
      | some (content, rest) => .ok (.regular content, rest)
      | none =>
        let shown := String.ofList ((c :: rest).take 10)
        .error ⟨line, s!"runaway regular expression {shown} ..."⟩
    else if c.isDigit || (c = '.' && rest.head?.any Char.isDigit) then
      match Floating.readDecimal? text with
      | some (magnitude, rest) => .ok (.number (double (Floating.rounded false magnitude).1), rest)
      | none => .error ⟨line, s!"unexpected character '{c}'"⟩
    else if isNameStart c then
      let name := text.takeWhile fun c => isNameStart c || c.isDigit
      let rest := text.drop name.length
      .ok (nameToken (String.ofList name) rest, rest)
    else match symbols.find? fun symbol => symbol.toList.isPrefixOf text with
      | some symbol => .ok (.symbol symbol, text.drop symbol.length)
      | none => .error ⟨line, s!"unexpected character '{c}'"⟩

/-- Passes blanks, comments and joined lines, and counts the lines that end there. -/
def skipBlanks : (fuel : Nat) → List Char → Nat × List Char
  | 0, text => (0, text)
  | fuel + 1, text =>
    match text with
    | '\\' :: '\n' :: rest =>
      let (lines, rest) := skipBlanks fuel rest
      (lines + 1, rest)
    | '\\' :: '\r' :: '\n' :: rest =>
      let (lines, rest) := skipBlanks fuel rest
      (lines + 1, rest)
    | '#' :: rest => (0, rest.dropWhile (· ≠ '\n'))
    | c :: rest => if c = ' ' || c = '\t' || c = '\r' then skipBlanks fuel rest else (0, text)
    | [] => (0, [])

/-- All tokens of a text, and the end. -/
def tokens : (fuel : Nat) → (last : Option Token) → (line : Nat) → List Char →
    Except Fault (List Located)
  | 0, _, line, _ => .ok [⟨.ending, line, "end of file"⟩]
  | fuel + 1, last, line, text => do
    let (joined, text) := skipBlanks (text.length + 1) text
    let line := line + joined
    match text with
    | [] => return [⟨.ending, line + 1, "end of file"⟩]
    | _ =>
      let (token, rest) ← readToken last line text
      let shown := String.ofList (text.take (text.length - rest.length))
      let isNewline : Bool := match token with
        | .newline => true
        | _ => false
      let others ← tokens fuel (some token) (if isNewline then line + 1 else line) rest
      return ⟨token, line, if isNewline then "end of line" else shown⟩ :: others

end ArtifactRelease.Shell.Awk
