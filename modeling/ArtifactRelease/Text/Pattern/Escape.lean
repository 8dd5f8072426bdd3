import ArtifactRelease.Text.Pattern.Cursor

/-!
# Characters behind a backslash
-/

namespace ArtifactRelease.Text.Pattern

/-- What a backslash and the characters behind it stand for. -/
inductive Escape where
  /-- A character; `byte` if it was given by two hexadecimal digits. -/
  | character (c : Char) (byte : Bool)
  /-- The characters of a set, or those outside of it. -/
  | shorthand (set : CharSet) (negated : Bool)
  | anchor (anchor : Anchor)
  deriving Repr, DecidableEq

namespace Escape

def hexDigit? (c : Char) : Option Nat :=
  if c.isDigit then some (c.toNat - '0'.toNat)
  else if 'a' ≤ c && c ≤ 'f' then some (c.toNat - 'a'.toNat + 10)
  else if 'A' ≤ c && c ≤ 'F' then some (c.toNat - 'A'.toNat + 10)
  else none

/-- Takes some hexadecimal digits, with layout between them. -/
def readHex : Nat → Nat → Reading Nat
  | 0, value => do
    Reading.skipLayout
    return value
  | count + 1, value => do
    match hexDigit? (← Reading.significant) with
    | none => Reading.refuse
    | some digit =>
      Reading.skip 1
      readHex count (16 * value + digit)

def readCode (digits : Nat) : Reading Escape := do
  let code ← readHex digits 0
  if code.isValidChar then return .character (Char.ofNat code) (digits == 2) else Reading.refuse

/-- The signs that a backslash only takes the meaning from: all of ASCII but letters, digits and
angle brackets. -/
def isPlain (c : Char) : Bool :=
  c.toNat < 0x80 && !c.isAlphanum && c ≠ '<' && c ≠ '>'

def shorthandOf (name : String) (negated : Bool) : Reading Escape :=
  return .shorthand ((asciiClass? name).getD CharSet.empty) negated

def read : Reading Escape := do
  let c ← Reading.next
  let character (code : Nat) : Reading Escape := return .character (Char.ofNat code) false
  match c with
  | 'x' => readCode 2
  | 'u' => readCode 4
  | 'U' => readCode 8
  | 'd' => shorthandOf "digit" false
  | 'D' => shorthandOf "digit" true
  | 's' => shorthandOf "space" false
  | 'S' => shorthandOf "space" true
  | 'w' => return .shorthand wordCharacters false
  | 'W' => return .shorthand wordCharacters true
  | 'a' => character 0x07
  | 'f' => character 0x0C
  | 't' => character 0x09
  | 'n' => character 0x0A
  | 'r' => character 0x0D
  | 'v' => character 0x0B
  | 'A' => return .anchor .textStart
  | 'z' => return .anchor .textEnd
  | 'b' => return .anchor .wordEdge
  | 'B' => return .anchor .noWordEdge
  | '<' => return .anchor .wordStart
  | '>' => return .anchor .wordEnd
  | _ => if isPlain c then return .character c false else Reading.refuse

end Escape

end ArtifactRelease.Text.Pattern
