import ArtifactRelease.Number.Decimal
import ArtifactRelease.Text.Lines

/-!
# YAML scalars

A string is written in the plainest of four styles that reads back as the same string.  One with a
line feed becomes a literal block if its blanks survive there; one that would read as null, a
boolean or a number, or that starts or contains something with a meaning of its own, is put in
single quotes; one with a character that cannot stand in a document is put in double quotes, where
it is escaped.
-/

namespace ArtifactRelease.Yaml

open ArtifactRelease.Number

/-! ## Characters -/

/-- The characters that end a line in a document. -/
def isBreak (c : Char) : Bool :=
  c = '\n' || c = '\r' || c.toNat = 0x85 || c.toNat = 0x2028 || c.toNat = 0x2029

/-- A blank, a line break or NUL: what may follow an indicator to make it one. -/
def isBlankOrBreak (c : Char) : Bool :=
  c = ' ' || c = '\t' || c.toNat = 0 || isBreak c

/-- The characters that may stand in a document unescaped. -/
def isPlainCharacter (c : Char) : Bool :=
  let code := c.toNat
  code = 0x0A || (0x20 ≤ code && code ≤ 0x7E) || (0xA0 ≤ code && code ≤ 0xD7FF)
    || (0xE000 ≤ code && code ≤ 0xFFFD && code ≠ 0xFEFF) || 0x10000 ≤ code

/-! ## Strings that read as something else -/

def readsAsNull (text : List Char) : Bool :=
  text ∈ ["", "null", "Null", "NULL", "~"].map String.toList

def readsAsBool (text : List Char) : Bool :=
  text ∈ ["true", "True", "TRUE", "false", "False", "FALSE"].map String.toList

def digitValue? (base : Nat) (c : Char) : Option Nat :=
  let value? :=
    if '0' ≤ c ∧ c ≤ '9' then some (c.toNat - 0x30)
    else if 'a' ≤ c ∧ c ≤ 'z' then some (c.toNat - 0x61 + 10)
    else if 'A' ≤ c ∧ c ≤ 'Z' then some (c.toNat - 0x41 + 10)
    else none
  value?.filter (· < base)

/-- The value of digits in a base, of which there must be one. -/
def natural? (base : Nat) (text : List Char) : Option Nat :=
  if text.isEmpty then none
  else text.foldlM (fun value c => (digitValue? base c).map (value * base + ·)) 0

/-- The value of a run of digits with an optional base mark. -/
def unsigned? (text : List Char) : Option Nat :=
  match text with
  | '0' :: 'x' :: rest => natural? 16 rest
  | '0' :: 'o' :: rest => natural? 8 rest
  | '0' :: 'b' :: rest => natural? 2 rest
  | _ => natural? 10 text

/-- Digits after a needless zero: a string in YAML, but one that other readers take for a number. -/
def isZeroPadded (text : List Char) : Bool :=
  let body := match text with
    | '-' :: rest => rest
    | '+' :: rest => rest
    | _ => text
  match body with
  | '0' :: c :: rest => (c :: rest).all isDigit
  | _ => false

/-- An integer of at most 128 bits. -/
def readsAsInteger (text : List Char) : Bool :=
  !isZeroPadded text &&
    match text with
    | '-' :: rest => (unsigned? rest).any (· ≤ Nat.pow 2 127)
    | '+' :: rest => (unsigned? rest).any (· < Nat.pow 2 128)
    | _ => (unsigned? text).any (· < Nat.pow 2 128)

/-- A decimal `significand · 10 ^ exponent` is below the largest double and half of its last
place. -/
def isFiniteDouble (significand : Nat) (exponent : Int) : Bool :=
  if significand = 0 then true
  else
    let magnitude := (digits significand).length + exponent
    if magnitude < 300 then true
    else if 320 < magnitude then false
    else
      let ratio : Ratio :=
        if 0 ≤ exponent then ⟨significand * Nat.pow 10 exponent.toNat, 1⟩
        else ⟨significand, Nat.pow 10 (-exponent).toNat⟩
      (Binary64.ofRatio? ratio).isSome

/-- An optional exponent with its mark. -/
def exponent? (text : List Char) : Option Int :=
  match text with
  | [] => some 0
  | mark :: rest =>
    if mark = 'e' ∨ mark = 'E' then
      match rest with
      | '-' :: shown => (natural? 10 shown).map fun value => -(value : Int)
      | '+' :: shown => (natural? 10 shown).map fun value => (value : Int)
      | shown => (natural? 10 shown).map fun value => (value : Int)
    else none

/-- A finite decimal fraction without sign: digits with a point among them, before them or behind
them, and an optional exponent. -/
def isUnsignedFloat (text : List Char) : Bool :=
  let whole := text.takeWhile isDigit
  let afterWhole := text.dropWhile isDigit
  let (fraction, tail) := match afterWhole with
    | '.' :: rest => (rest.takeWhile isDigit, rest.dropWhile isDigit)
    | rest => ([], rest)
  if whole.isEmpty ∧ fraction.isEmpty then false
  else match exponent? tail with
    | none => false
    | some exponent => isFiniteDouble (ofDigits (whole ++ fraction)) (exponent - fraction.length)

def readsAsFloat (text : List Char) : Bool :=
  let infinities := [".inf", ".Inf", ".INF"].map String.toList
  !isZeroPadded text &&
    (text ∈ [".nan", ".NaN", ".NAN"].map String.toList ||
      match text with
      | '+' :: rest => rest ∈ infinities || isUnsignedFloat rest
      | '-' :: rest => rest ∈ infinities || isUnsignedFloat rest
      | _ => text ∈ infinities || isUnsignedFloat text)

/-- Whether a plain scalar of this text would not be read as a string everywhere. -/
def isAmbiguous (text : List Char) : Bool :=
  readsAsNull text || readsAsBool text || readsAsInteger text || readsAsFloat text
    || isZeroPadded text

/-! ## Choice of a style -/

inductive Style where
  | plain
  | singleQuoted
  | doubleQuoted
  | literal
  deriving Repr, DecidableEq

/-- The indicators that a plain scalar cannot start with. -/
def isLeadingIndicator (c : Char) : Bool :=
  c ∈ ['#', ',', '[', ']', '{', '}', '&', '*', '!', '|', '>', '"', '%', '@', Char.ofNat 0x27,
    Char.ofNat 0x60]

/-- Whether what follows a character is a blank, a break or the end. -/
def endsWord (following : List Char) : Bool :=
  match following with
  | [] => true
  | c :: _ => isBlankOrBreak c

/-- Whether a later character has a meaning of its own: a colon before a blank, or a number sign
behind one. -/
def hasInnerIndicator : (afterBlank : Bool) → List Char → Bool
  | _, [] => false
  | afterBlank, c :: rest =>
    (c = ':' && endsWord rest) || (c = '#' && afterBlank)
      || hasInnerIndicator (isBlankOrBreak c) rest

/-- Whether the text, written plain in a block, would be taken for something else. -/
def hasIndicator (text : List Char) : Bool :=
  "---".toList.isPrefixOf text || "...".toList.isPrefixOf text ||
    match text with
    | [] => false
    | c :: rest =>
      isLeadingIndicator c || ((c = '?' || c = ':' || c = '-') && endsWord rest)
        || hasInnerIndicator (isBlankOrBreak c) rest

/-- Whether a character of the first class stands directly before one of the second. -/
def hasPair (first second : Char → Bool) (text : List Char) : Bool :=
  (text.zip (text.drop 1)).any fun pair => first pair.1 && second pair.2

def isSpace (c : Char) : Bool := c = ' '

def hasSpecial (text : List Char) : Bool :=
  text.any (!isPlainCharacter ·)

/-- Neither a literal block nor single quotes keep a blank before a line break, and neither can
hold a special character. -/
def losesContent (text : List Char) : Bool :=
  hasSpecial text || hasPair isSpace isBreak text

def isLiteralAllowed (text : List Char) : Bool :=
  !losesContent text && text.getLast? ≠ some ' '

def isSingleQuotedAllowed (text : List Char) : Bool :=
  !losesContent text && !hasPair isBreak isSpace text

def isPlainAllowed (text : List Char) : Bool :=
  !losesContent text && !hasIndicator text && !text.any isBreak
    && text.head? ≠ some ' ' && text.getLast? ≠ some ' '

def style (text : List Char) : Style :=
  if '\n' ∈ text then
    if isLiteralAllowed text then .literal else .doubleQuoted
  else if !isAmbiguous text && isPlainAllowed text then .plain
  else if isSingleQuotedAllowed text then .singleQuoted
  else .doubleQuoted

/-! ## The four styles -/

def spaces (width : Nat) : List Char := List.replicate width ' '

/-- The text in single quotes.  A quote is doubled, and what follows a line break is indented. -/
def singleQuotedBody (indent : Nat) : (afterBreak : Bool) → List Char → List Char
  | afterBreak, [] => if afterBreak then spaces indent else []
  | afterBreak, c :: rest =>
    let quote := Char.ofNat 0x27
    if c = ' ' then c :: singleQuotedBody indent afterBreak rest
    else if isBreak c then c :: singleQuotedBody indent true rest
    else
      (if afterBreak then spaces indent else [])
        ++ (if c = quote then [quote, quote] else [c])
        ++ singleQuotedBody indent false rest

def singleQuoted (indent : Nat) (text : List Char) : List Char :=
  let quote := Char.ofNat 0x27
  quote :: (singleQuotedBody indent false text ++ [quote])

def upperHex (width : Nat) (value : Nat) : List Char :=
  let shown := (Nat.toDigits 16 value).map Char.toUpper
  List.replicate (width - shown.length) '0' ++ shown

def escapeChar (c : Char) : List Char :=
  if c = '"' then ['\\', '"']
  else if c = '\\' then ['\\', '\\']
  else if isPlainCharacter c && !isBreak c then [c]
  else
    let code := c.toNat
    if code = 0x00 then ['\\', '0']
    else if code = 0x07 then ['\\', 'a']
    else if code = 0x08 then ['\\', 'b']
    else if code = 0x09 then ['\\', 't']
    else if code = 0x0A then ['\\', 'n']
    else if code = 0x0B then ['\\', 'v']
    else if code = 0x0C then ['\\', 'f']
    else if code = 0x0D then ['\\', 'r']
    else if code = 0x1B then ['\\', 'e']
    else if code = 0x85 then ['\\', 'N']
    else if code = 0x2028 then ['\\', 'L']
    else if code = 0x2029 then ['\\', 'P']
    else if code ≤ 0xFF then ['\\', 'x'] ++ upperHex 2 code
    else if code ≤ 0xFFFF then ['\\', 'u'] ++ upperHex 4 code
    else ['\\', 'U'] ++ upperHex 8 code

def doubleQuoted (text : List Char) : List Char :=
  '"' :: (text.flatMap escapeChar ++ ['"'])

/-- The header of a literal block: how deep it is indented, where that cannot be seen from its first
line, and what becomes of the breaks at its end. -/
def literalHeader (text : List Char) : List Char :=
  let hint := if text.head?.any fun c => c = ' ' || isBreak c then ['2'] else []
  let chomp := match text.reverse with
    | [] => ['-']
    | last :: before =>
      if !isBreak last then ['-']
      else match before with
        | [] => ['+']
        | c :: _ => if isBreak c then ['+'] else []
  '|' :: (hint ++ chomp)

/-- The lines of a literal block; an empty line is not indented. -/
def literalBody (indent : Nat) : (afterBreak : Bool) → List Char → List Char
  | _, [] => []
  | afterBreak, c :: rest =>
    if isBreak c then c :: literalBody indent true rest
    else (if afterBreak then spaces indent else []) ++ c :: literalBody indent false rest

def literal (indent : Nat) (text : List Char) : List Char :=
  literalHeader text ++ '\n' :: literalBody indent true text

/-- A string as a scalar whose continuation lines are indented by `indent`. -/
def scalar (indent : Nat) (text : List Char) : List Char :=
  match style text with
  | .plain => text
  | .singleQuoted => singleQuoted indent text
  | .doubleQuoted => doubleQuoted text
  | .literal => literal indent text

end ArtifactRelease.Yaml
