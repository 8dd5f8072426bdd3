import ArtifactRelease.Shell.Octets
import ArtifactRelease.Shell.Token

/-!
# Texts in complaints

Where small programs repeat an argument, they make it visible: in quotes, and with everything
written out that cannot be printed.  A plain text stands in single quotes.  The name of a file is
written as a shell would read it, and some programs leave the quotes away where a shell needs none.
-/

namespace ArtifactRelease.Shell

namespace Quotation

/-- The letters for characters that cannot be printed. -/
def letters : List (Nat × Char) :=
  [(7, 'a'), (8, 'b'), (9, 't'), (10, 'n'), (11, 'v'), (12, 'f'), (13, 'r')]

def isPrintable (c : Char) : Bool :=
  32 ≤ c.toNat && c.toNat < 127

/-- A character that cannot be printed, behind a backslash. -/
def writtenOut (c : Char) : List Char :=
  match letters.find? (·.1 = c.toNat) with
  | some (_, letter) => ['\\', letter]
  | none =>
    let digit (place : Nat) : Char := Char.ofNat (0x30 + c.toNat / place % 8)
    ['\\', digit 64, digit 8, digit 1]

/-- The characters of a name between single quotes.  Those that cannot be printed are put into
quotes of their own, behind a dollar sign; `opened` while these are open. -/
def nameBody : (opened : Bool) → List Char → List Char
  | _, [] => []
  | opened, c :: rest =>
    if c = singleQuote then [c, '\\', c, c] ++ nameBody false rest
    else if isPrintable c then
      (if opened then [singleQuote, singleQuote] else []) ++ c :: nameBody false rest
    else
      (if opened then [] else [singleQuote, '$', singleQuote])
        ++ writtenOut c ++ nameBody true rest

/-- Whether a character means the same in double quotes, to a shell and elsewhere. -/
def isHarmless (c : Char) : Bool :=
  c.isAlphanum || c ∈ ['%', '+', ',', '-', '.', '/', ':', ']', '_', ' ', '@', singleQuote]

/-- Whether a shell would read something else than the name where it stands without quotes. -/
def needsQuotes (name : List Char) : Bool :=
  let always : List Char :=
    ['?', '\\', ' ', '!', '"', '$', '&', '(', ')', '*', ';', '<', '=', '>', '[', '^', '|', ':',
      singleQuote, backquote]
  match name with
  | [] | ['{'] | ['}'] | '#' :: _ | '~' :: _ => true
  | _ => name.any fun c => c ∈ always || !isPrintable c

end Quotation

open Quotation

/-- A text in single quotes, with backslashes before those in it. -/
def inQuotes (text : String) : String :=
  let written (c : Char) : List Char :=
    if c = singleQuote || c = '\\' then ['\\', c]
    else if isPrintable c then [c] else writtenOut c
  String.ofList (singleQuote :: text.toList.flatMap written ++ [singleQuote])

/-- The name of a file in quotes; double ones if only a single quote is in the way. -/
def nameInQuotes (name : String) : String :=
  let characters := name.toList
  let startsOddly : Bool := characters.head? = some '#' || characters.head? = some '~'
  let plain := if startsOddly then characters.drop 1 else characters
  if characters.contains singleQuote && plain.all isHarmless then s!"\"{name}\""
  else String.ofList (singleQuote :: nameBody false characters ++ [singleQuote])

/-- The name of a file, in quotes where it needs them. -/
def shownName (name : String) : String :=
  if needsQuotes name.toList then nameInQuotes name else name

end ArtifactRelease.Shell
