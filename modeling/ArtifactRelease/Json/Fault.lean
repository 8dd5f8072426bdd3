import ArtifactRelease.Json.Value
import ArtifactRelease.Text.Quoted

/-!
# Faults in a JSON text

What can be wrong with a text that should be JSON, in two kinds: it is no JSON at all, or its values
are not of the shape that was asked for.
-/

namespace ArtifactRelease.Json

open ArtifactRelease.Text

/-- A value of a wrong kind, as far as it was read. -/
inductive Found where
  | null
  | bool (value : Bool)
  | integer (value : Int)
  | double (value : Number.Binary64)
  | string (value : String)
  | sequence
  | map
  deriving Repr, DecidableEq

inductive Fault where
  | endOfValue
  | endOfList
  | endOfObject
  | endOfString
  | expectedValue
  | expectedIdent
  | expectedColon
  | expectedCommaOrBracket
  | expectedCommaOrBrace
  | keyMustBeString
  | trailingComma
  | trailingCharacters
  | invalidNumber
  | numberOutOfRange
  | invalidEscape
  | unexpectedEndOfHexEscape
  | loneSurrogate
  | controlCharacter
  | tooDeep
  | missingField (name : String)
  | duplicateField (name : String)
  | invalidType (found : Found) (wanted : String)
  | invalidLength (count : Nat) (wanted : String)
  | unknownVariant (name : String) (known : String)
  deriving Repr, DecidableEq

def Found.describe : Found → String
  | .null => "null"
  | .bool true => "boolean `true`"
  | .bool false => "boolean `false`"
  | .integer value => s!"integer `{String.ofList (integerText value)}`"
  | .double value => s!"floating point `{String.ofList value.text}`"
  | .string value => s!"string {stringLiteral value}"
  | .sequence => "sequence"
  | .map => "map"

def Fault.message : Fault → String
  | .endOfValue => "EOF while parsing a value"
  | .endOfList => "EOF while parsing a list"
  | .endOfObject => "EOF while parsing an object"
  | .endOfString => "EOF while parsing a string"
  | .expectedValue => "expected value"
  | .expectedIdent => "expected ident"
  | .expectedColon => "expected `:`"
  | .expectedCommaOrBracket => "expected `,` or `]`"
  | .expectedCommaOrBrace => "expected `,` or `\x7d`"
  | .keyMustBeString => "key must be a string"
  | .trailingComma => "trailing comma"
  | .trailingCharacters => "trailing characters"
  | .invalidNumber => "invalid number"
  | .numberOutOfRange => "number out of range"
  | .invalidEscape => "invalid escape"
  | .unexpectedEndOfHexEscape => "unexpected end of hex escape"
  | .loneSurrogate => "lone leading surrogate in hex escape"
  | .controlCharacter => "control character (\\u0000-\\u001F) found while parsing a string"
  | .tooDeep => "recursion limit exceeded"
  | .missingField name => s!"missing field `{name}`"
  | .duplicateField name => s!"duplicate field `{name}`"
  | .invalidType found wanted => s!"invalid type: {found.describe}, expected {wanted}"
  | .invalidLength count wanted => s!"invalid length {count}, expected {wanted}"
  | .unknownVariant name known => s!"unknown variant `{name}`, expected `{known}`"

end ArtifactRelease.Json
