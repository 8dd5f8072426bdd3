import ArtifactRelease.Shell.Format
import ArtifactRelease.Shell.Utility.Awk.Token

/-!
# Values of record scripts

A value is a number or a text, and each can be taken for the other.  A text that comes from the
input counts as a number in comparisons if it looks like one.
-/

namespace ArtifactRelease.Shell.Awk

inductive Value where
  /-- What a variable holds that nothing was assigned to. -/
  | missing
  | number (value : Float)
  | text (content : String)
  | input (content : String)

/-- A double as a number of scripts.  What comes from a calculation without a result counts as
negative. -/
def floatingOf (value : Float) : Floating :=
  let bits := value.toBits.toNat
  let negative : Bool := bits / Nat.pow 2 63 = 1
  let power := bits / Nat.pow 2 52 % Nat.pow 2 11
  let fraction := bits % Nat.pow 2 52
  if power = 2047 then if fraction = 0 then .infinite negative else .notANumber true
  else if power = 0 then .finite negative (Floating.scaled 2 fraction (-1074))
  else .finite negative (Floating.scaled 2 (fraction + Nat.pow 2 52) ((power : Int) - 1075))

def truncated : Floating → Int
  | .finite negative magnitude =>
    let whole : Int := magnitude.numerator / magnitude.denominator
    if negative then -whole else whole
  | _ => 0

/-- The integer that a number is, if it is one. -/
def integer? : Floating → Option Int
  | .finite negative magnitude =>
    if magnitude.numerator % magnitude.denominator = 0 then
      some (truncated (.finite negative magnitude))
    else none
  | _ => none

/-- The number at the start of a text, or zero. -/
def leadingNumber (text : String) : Float :=
  match Floating.read? text.toList with
  | some (value, _, _) => double value
  | none => 0.0

/-- Whether a text is a number, apart from blanks around it. -/
def looksNumeric (text : String) : Bool :=
  match Floating.read? text.toList with
  | some (.finite _ _, rest, _) => rest.all Floating.isSpace
  | _ => false

/-- The numbers from here on are not written in digits alone. -/
def largestWhole : Int := (Nat.pow 2 64 : Nat)

/-- A number as a text: whole numbers in digits, others by a format. -/
def numberText (format : String) (value : Float) : String :=
  let value := floatingOf value
  let plain (text : List Char) : String :=
    String.ofList ((if value.isNegative then ['-'] else []) ++ text)
  match integer? value with
  | some whole =>
    if whole = largestWhole then toString (largestWhole - 1)
    else if -9223372036854775808 ≤ whole && whole < largestWhole then toString whole
    else plain (formatted value)
  | none => plain (formatted value)
where
  /-- The digits by the format, which is one conversion. -/
  formatted (value : Floating) : List Char :=
    match format.toList with
    | '%' :: conversion =>
      let (layout, _, rest) := Format.Printing.readLayout { arguments := [] } conversion
      match rest with
      | letter :: _ => value.text letter.toLower ('#' ∈ layout.flags) layout.precision
      | [] => []
    | _ => value.text 'g' false none

namespace Value

def toNumber : Value → Float
  | missing => 0.0
  | number value => value
  | text content | input content => leadingNumber content

def toText (format : String) : Value → String
  | missing => ""
  | number value => numberText format value
  | text content | input content => content

def isNumeric : Value → Bool
  | missing | number _ => true
  | text _ => false
  | input content => looksNumeric content

def holds : Value → Bool
  | missing => false
  | number value => value != 0.0
  | text content => !content.isEmpty
  | input content => if looksNumeric content then leadingNumber content != 0.0 else !content.isEmpty

def ofBool (holds : Bool) : Value := .number (if holds then 1.0 else 0.0)

def ofNat (value : Nat) : Value := .number (Float.ofNat value)

end Value

/-- Whether a text comes before another one, by characters. -/
def textBefore (first second : String) : Bool :=
  first.toList < second.toList

/-- The remainder of a division that is rounded toward zero. -/
def remainder (left right : Float) : Float :=
  match floatingOf left, floatingOf right with
  | .finite negative first, .finite _ second =>
    if second.numerator = 0 then 0.0 / 0.0
    else
      let left := first.numerator * second.denominator
      let right := second.numerator * first.denominator
      double (.finite negative ⟨left % right, first.denominator * second.denominator⟩)
  | .finite _ _, .infinite _ => left
  | _, _ => 0.0 / 0.0

/-! ## Formats -/

/-- A format was given fewer arguments than it has conversions. -/
inductive FormatFault where
  | tooFewArguments

def converted (numberFormat : String) (layout : Format.Layout) (letter : Char) (value : Value) :
    List Char :=
  let number := floatingOf value.toNumber
  let whole : Int := match number with
    | .infinite negative => if negative then -(largestWhole - 1) else largestWhole - 1
    | _ => truncated number
  let unsigned (base : Nat) (upper : Bool) : List Char :=
    let digits := Format.Printing.integerDigits layout base (Shell.Arithmetic.bits whole)
    let start : List Char := if '#' ∈ layout.flags && whole ≠ 0 then
        if base = 16 then (if upper then ['0', 'X'] else ['0', 'x'])
        else if base = 8 then ['0'] else []
      else []
    layout.pad layout.precision.isNone start (if upper then digits.map Char.toUpper else digits)
  match letter with
  | 'd' | 'i' =>
    layout.pad layout.precision.isNone (layout.sign (whole < 0))
      (Format.Printing.integerDigits layout 10 whole.natAbs)
  | 'u' => unsigned 10 false
  | 'o' => unsigned 8 false
  | 'x' => unsigned 16 false
  | 'X' => unsigned 16 true
  | 'c' =>
    let character := match value with
      | .number _ => Char.ofNat (truncated number % 256).toNat
      | value => (value.toText numberFormat).toList.headD (Char.ofNat 0)
    layout.pad false [] [character]
  | 's' =>
    let text := (value.toText numberFormat).toList
    layout.pad false [] ((layout.precision.map text.take).getD text)
  | _ => layout.floating letter number

/-- A width or precision, which may be the next argument. -/
def layoutNumber (arguments : List Value) (text : List Char) :
    Except FormatFault (Int × List Value × List Char) :=
  match text, arguments with
  | '*' :: rest, value :: arguments =>
    .ok (truncated (floatingOf value.toNumber), arguments, rest)
  | '*' :: _, [] => .error .tooFewArguments
  | _, _ =>
    let digits := text.takeWhile Char.isDigit
    .ok (Number.ofDigits digits, arguments, text.drop digits.length)

def formatted (numberFormat : String) :
    (fuel : Nat) → List Char → List Value → List Char × Option FormatFault
  | 0, _, _ => ([], none)
  | _, [], _ => ([], none)
  | fuel + 1, '%' :: '%' :: rest, arguments =>
    let (text, fault) := formatted numberFormat fuel rest arguments
    ('%' :: text, fault)
  | fuel + 1, '%' :: text, arguments =>
    let isFlag (c : Char) : Bool := c ∈ ['-', '0', '+', ' ', '#']
    let flags := text.takeWhile isFlag
    let read : Except FormatFault (Format.Layout × List Value × List Char) := do
      let (width, arguments, rest) ← layoutNumber arguments (text.drop flags.length)
      let flags := if width < 0 then '-' :: flags else flags
      match rest with
      | '.' :: rest =>
        let (precision, arguments, rest) ← layoutNumber arguments rest
        let precision := if precision < 0 then none else some precision.toNat
        return (⟨flags, width.natAbs, precision⟩, arguments, rest)
      | _ => return (⟨flags, width.natAbs, none⟩, arguments, rest)
    match read with
    | .error fault => ([], some fault)
    | .ok (layout, arguments, rest) =>
      match rest.dropWhile (· ∈ ['l', 'h', 'q', 'L']), arguments with
      | [], _ => ('%' :: text, none)
      | _ :: _, [] => ([], some .tooFewArguments)
      | letter :: rest, value :: arguments =>
        let shown := converted numberFormat layout letter value
        let (later, fault) := formatted numberFormat fuel rest arguments
        (shown ++ later, fault)
  | fuel + 1, c :: rest, arguments =>
    let (text, fault) := formatted numberFormat fuel rest arguments
    (c :: text, fault)

/-! ## Tables -/

def filingNumber (text : String) : Nat :=
  text.toList.foldl (fun number c => (number ^^^ c.toNat) * 16777619 % Nat.pow 2 32) 2166136261

end ArtifactRelease.Shell.Awk
