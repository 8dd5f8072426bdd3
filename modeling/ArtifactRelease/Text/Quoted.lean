import ArtifactRelease.Text.Printable

/-!
# Quoted characters and strings

Messages name a character or a string in quotes.  A backslash stands before the quote itself,
before a backslash and in the short forms of tab, line feed, carriage return and NUL; a character
that shows nothing is written by its number in braces.
-/

namespace ArtifactRelease.Text

/-- Lowercase hexadecimal digits, without leading zeros. -/
def hexDigits (value : Nat) : List Char :=
  Nat.toDigits 16 value

/-- One character between the given quotes. -/
def quotedChar (quote : Char) (c : Char) : List Char :=
  if c = quote then ['\\', c]
  else if c = '\\' then ['\\', '\\']
  else if c = '\t' then ['\\', 't']
  else if c = '\n' then ['\\', 'n']
  else if c = '\r' then ['\\', 'r']
  else if c.toNat = 0 then ['\\', '0']
  else if isPrintable c then [c]
  else ['\\', 'u', '{'] ++ hexDigits c.toNat ++ ['}']

def charLiteral (c : Char) : String :=
  let quote := Char.ofNat 0x27
  String.ofList (quote :: (quotedChar quote c ++ [quote]))

def stringLiteral (text : String) : String :=
  String.ofList ('"' :: (text.toList.flatMap (quotedChar '"') ++ ['"']))

end ArtifactRelease.Text
