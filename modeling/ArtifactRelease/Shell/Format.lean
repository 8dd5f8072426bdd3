import ArtifactRelease.Shell.Floating
import ArtifactRelease.Shell.Octets

/-!
# Formatted output in shell scripts

Escapes stand for single bytes, so that a script can write any bytes at all.  A format is used
again as long as arguments are left and it takes some.
-/

namespace ArtifactRelease.Shell.Format

open ArtifactRelease.Number

def letterEscape? : Char → Option Char
  | '\\' => some '\\'
  | 'a' => some (Char.ofNat 0x07)
  | 'b' => some (Char.ofNat 0x08)
  | 'e' => some (Char.ofNat 0x1B)
  | 'f' => some (Char.ofNat 0x0C)
  | 'n' => some '\n'
  | 'r' => some '\r'
  | 't' => some '\t'
  | 'v' => some (Char.ofNat 0x0B)
  | _ => none

def isOctal (c : Char) : Bool :=
  '0' ≤ c && c ≤ '7'

/-- The byte that octal digits spell, as far as it holds them. -/
def octal (digits : List Char) : Char :=
  Char.ofNat (Arithmetic.valueIn 8 digits % 256)

/-- Reads what follows a backslash: a letter, or up to three octal digits.  Before anything else the
backslash stands for itself. -/
def readEscape (text : List Char) : Char × List Char :=
  match text with
  | [] => ('\\', [])
  | c :: rest =>
    match letterEscape? c with
    | some escaped => (escaped, rest)
    | none =>
      let digits := (text.take 3).takeWhile isOctal
      if digits.isEmpty then ('\\', text) else (octal digits, text.drop digits.length)

/-- Reads an escape that only some programs know: up to two hexadecimal digits. -/
def readHexadecimal? (text : List Char) : Option (Char × List Char) :=
  match text with
  | 'x' :: rest =>
    let digits := (rest.take 2).takeWhile fun c => (Arithmetic.hexDigit? c).isSome
    if digits.isEmpty then none
    else some (Char.ofNat (Arithmetic.valueIn 16 digits), rest.drop digits.length)
  | _ => none

/-- Reads what follows a backslash where octal digits may have a zero in front. -/
def readTextEscape (hexadecimal : Bool) (text : List Char) : Char × List Char :=
  match (if hexadecimal then readHexadecimal? text else none) with
  | some found => found
  | none =>
    match text with
    | '0' :: digit :: later => readEscape (if isOctal digit then digit :: later else text)
    | _ => readEscape text

/-- A text with its escapes read, last character first, and whether `\c` cut it short. -/
def escaped (hexadecimal : Bool) : (fuel : Nat) → List Char → List Char → List Char × Bool
  | 0, written, _ => (written, false)
  | _, written, [] => (written, false)
  | fuel + 1, written, '\\' :: rest =>
    if rest.head? = some 'c' then (written, true)
    else
      let (c, rest) := readTextEscape hexadecimal rest
      escaped hexadecimal fuel (c :: written) rest
  | fuel + 1, written, c :: rest => escaped hexadecimal fuel (c :: written) rest

/-- What `echo` writes: its arguments with escapes, and a line feed unless it is turned off. -/
def echo (arguments : List String) : List Char :=
  let (shown, ending) := match arguments with
    | "-n" :: shown => (shown, [])
    | shown => (shown, ['\n'])
  let text := (" ".intercalate shown).toList
  match escaped false text.length [] text with
  | (written, true) => written.reverse
  | (written, false) => written.reverse ++ ending

/-- What stands between the percent sign and the letter of a conversion. -/
structure Layout where
  flags : List Char := []
  width : Nat := 0
  precision : Option Nat := none
  deriving Repr, DecidableEq

namespace Layout

def leftAligned (layout : Layout) : Bool :=
  '-' ∈ layout.flags

/-- Fills a text up to the width; zeros go between the sign and the digits. -/
def pad (layout : Layout) (zeros : Bool) (sign : List Char) (text : List Char) : List Char :=
  let missing := layout.width - (sign ++ text).length
  if layout.leftAligned then sign ++ text ++ List.replicate missing ' '
  else if zeros && '0' ∈ layout.flags then sign ++ List.replicate missing '0' ++ text
  else List.replicate missing ' ' ++ sign ++ text

def sign (layout : Layout) (negative : Bool) : List Char :=
  if negative then ['-']
  else if '+' ∈ layout.flags then ['+']
  else if ' ' ∈ layout.flags then [' ']
  else []

/-- A number with a point under a letter; a capital one makes capitals. -/
def floating (layout : Layout) (letter : Char) (value : Floating) : List Char :=
  let text := value.text letter.toLower ('#' ∈ layout.flags) layout.precision
  let text := if letter.isUpper then text.map Char.toUpper else text
  -- zeros stand behind the mark for hexadecimal digits
  let (start, text) := if letter.toLower = 'a' && value.isFinite then (text.take 2, text.drop 2)
    else ([], text)
  layout.pad value.isFinite (layout.sign value.isNegative ++ start) text

end Layout

/-- What is wrong with an argument that should be a number. -/
inductive NumberFault where
  | noNumber
  | incomplete
  | outOfRange
  deriving Repr, DecidableEq

def NumberFault.message : NumberFault → String
  | noNumber => "expected numeric value"
  | incomplete => "not completely converted"
  | outOfRange => "Numerical result out of range"

/-- The integer that an argument spells, and what is wrong with it; `lowest` limits those
below zero, `highest` the others.  A missing argument is zero, and a quote makes a number of the
character behind it. -/
def integer (lowest highest : Nat) (argument : String) : Int × Option NumberFault :=
  match argument.toList with
  | [] => (0, none)
  | quote :: rest =>
    if quote = '"' || quote = singleQuote then
      ((rest.head?.map (·.toNat)).getD 0, none)
    else
      let (negative, digits) := Floating.readSign (quote :: rest)
      if !digits.head?.any Char.isDigit then (0, some .noNumber)
      else
        let (magnitude, rest) := Arithmetic.readNumber digits
        let limit := if negative then lowest else highest
        let value : Int := min magnitude limit
        let fault :=
          if limit < magnitude then some .outOfRange
          else if rest.isEmpty then none
          else some .incomplete
        (if negative then -value else value, fault)

def signedInteger (argument : String) : Int × Option NumberFault :=
  integer (Arithmetic.largest + 1) Arithmetic.largest argument

/-- The bits of an integer that has no sign.  A negative number stands for its bits; one that is too
low is taken for the highest. -/
def unsignedInteger (argument : String) : Nat × Option NumberFault :=
  let highest := 2 * Arithmetic.largest + 1
  match integer highest highest argument with
  | (_, some .outOfRange) => (highest, some .outOfRange)
  | (value, fault) => (Arithmetic.bits value, fault)

/-- The number with a point that an argument spells, and what is wrong with it. -/
def floating (argument : String) : Floating × Option NumberFault :=
  match argument.toList with
  | [] => (.zero, none)
  | quote :: rest =>
    if quote = '"' || quote = singleQuote then
      (.finite false ⟨(rest.head?.map (·.toNat)).getD 0, 1⟩, none)
    else match Floating.read? (quote :: rest) with
      | none => (.zero, some .noNumber)
      | some (value, behind, outOfRange) =>
        (value, if !behind.isEmpty then some .incomplete
          else if outOfRange then some .outOfRange else none)

/-- Output under way: what was written stands last first. -/
structure Printing where
  written : List Char := []
  arguments : List String
  consumed : Bool := false
  stopped : Bool := false
  /-- Complaints, and whether one of them ends the command. -/
  complaints : List String := []
  broken : Bool := false

namespace Printing

def write (printing : Printing) (text : List Char) : Printing :=
  { printing with written := text.reverse ++ printing.written }

/-- The next argument; when there is none left, it is empty. -/
def next (printing : Printing) : String × Printing :=
  (printing.arguments.headD "",
    { printing with arguments := printing.arguments.tail, consumed := true })

def complain (printing : Printing) (argument : String) (fault : Option NumberFault) : Printing :=
  match fault with
  | none => printing
  | some fault =>
    { printing with complaints := printing.complaints ++ [s!"{argument}: {fault.message}"] }

def abort (printing : Printing) (complaint : String) : Printing :=
  { printing with
    complaints := printing.complaints ++ [complaint], stopped := true, broken := true }

def nextInteger (printing : Printing) : Int × Printing :=
  let (argument, printing) := printing.next
  let (value, fault) := signedInteger argument
  (value, printing.complain argument fault)

/-- Fills the digits of an integer up to its precision. -/
def integerDigits (layout : Layout) (base : Nat) (magnitude : Nat) : List Char :=
  let digits :=
    if layout.precision = some 0 && magnitude = 0 then [] else Nat.toDigits base magnitude
  List.replicate ((layout.precision.getD 1) - digits.length) '0' ++ digits

def writeSigned (printing : Printing) (layout : Layout) : Printing :=
  let (value, printing) := printing.nextInteger
  let digits := integerDigits layout 10 value.natAbs
  printing.write (layout.pad layout.precision.isNone (layout.sign (value < 0)) digits)

def writeUnsigned (printing : Printing) (layout : Layout) (base : Nat) (upper : Bool) : Printing :=
  let (argument, printing) := printing.next
  let (magnitude, fault) := unsignedInteger argument
  let printing := printing.complain argument fault
  let digits := integerDigits layout base magnitude
  let digits := if upper then digits.map Char.toUpper else digits
  let start := if '#' ∉ layout.flags then []
    else if base = 8 then (if digits.head? = some '0' then [] else ['0'])
    else if base = 16 && magnitude ≠ 0 then (if upper then ['0', 'X'] else ['0', 'x'])
    else []
  printing.write (layout.pad layout.precision.isNone start digits)

def writeFloating (printing : Printing) (layout : Layout) (letter : Char) : Printing :=
  let (argument, printing) := printing.next
  let (value, fault) := floating argument
  let printing := printing.complain argument fault
  printing.write (layout.floating letter value)

/-- Writes a conversion; `shown` is its text in the format. -/
def convert (printing : Printing) (layout : Layout) (shown : String) (letter : Char) : Printing :=
  match letter with
  | 's' =>
    let (argument, printing) := printing.next
    let text := argument.toList
    printing.write (layout.pad false [] ((layout.precision.map text.take).getD text))
  | 'c' =>
    let (argument, printing) := printing.next
    printing.write (layout.pad false [] [argument.toList.headD (Char.ofNat 0)])
  | 'b' =>
    let (argument, printing) := printing.next
    let (text, stopped) := escaped false argument.length [] argument.toList
    let text := text.reverse
    let printing :=
      printing.write (layout.pad false [] ((layout.precision.map text.take).getD text))
    { printing with stopped }
  | 'd' | 'i' => printing.writeSigned layout
  | 'u' => printing.writeUnsigned layout 10 false
  | 'o' => printing.writeUnsigned layout 8 false
  | 'x' => printing.writeUnsigned layout 16 false
  | 'X' => printing.writeUnsigned layout 16 true
  | 'a' | 'A' | 'e' | 'E' | 'f' | 'F' | 'g' | 'G' => printing.writeFloating layout letter
  | _ => printing.abort s!"{shown}: invalid directive"

/-- A number in a layout, or the next argument for a star. -/
def readCount (printing : Printing) (text : List Char) : Int × Printing × List Char :=
  match text with
  | '*' :: rest =>
    let (value, printing) := printing.nextInteger
    (value, printing, rest)
  | _ => (ofDigits (text.takeWhile Char.isDigit), printing, text.dropWhile Char.isDigit)

def readLayout (printing : Printing) (text : List Char) : Layout × Printing × List Char :=
  let isFlag (c : Char) : Bool := c ∈ ['-', '0', '+', ' ', '#']
  let flags := text.takeWhile isFlag
  let (width, printing, text) := printing.readCount (text.dropWhile isFlag)
  let flags := if width < 0 then '-' :: flags else flags
  match text with
  | '.' :: rest =>
    let (precision, printing, text) := printing.readCount rest
    let precision := if precision < 0 then none else some precision.toNat
    (⟨flags, width.natAbs, precision⟩, printing, text)
  | _ => (⟨flags, width.natAbs, none⟩, printing, text)

def pass : (fuel : Nat) → Printing → List Char → Printing
  | 0, printing, _ => printing
  | _, printing, [] => printing
  | fuel + 1, printing, '\\' :: rest =>
    let (c, rest) := readEscape rest
    pass fuel (printing.write [c]) rest
  | fuel + 1, printing, '%' :: '%' :: rest => pass fuel (printing.write ['%']) rest
  | fuel + 1, printing, '%' :: text =>
    let (layout, printing, rest) := printing.readLayout text
    match rest with
    | [] => printing.abort "missing format character"
    | letter :: rest =>
      let shown := String.ofList ('%' :: text.take (text.length - rest.length))
      let printing := printing.convert layout shown letter
      if printing.stopped then printing else pass fuel printing rest
  | fuel + 1, printing, c :: rest => pass fuel (printing.write [c]) rest

/-- Goes through the format until the arguments are used up. -/
def repeated (format : List Char) : (fuel : Nat) → Printing → Printing
  | 0, printing => printing
  | fuel + 1, printing =>
    let printing := pass format.length printing format
    if printing.stopped || printing.arguments.isEmpty || !printing.consumed then printing
    else repeated format fuel printing

end Printing

def print (format : String) (arguments : List String) : Printing :=
  Printing.repeated format.toList (arguments.length + 1) { arguments }

end ArtifactRelease.Shell.Format
