import GuestNic.Decimal.Layout
import GuestNic.Text.Quoted

/-!
# Faults of JSON texts

What can be wrong with a JSON text, or with a value in it that should have been of another kind.
-/

namespace GuestNic.Json

/-- A value that was found where another was expected. -/
inductive Found where
  | null
  | boolean (value : Bool)
  | integer (value : Int)
  | float (value : Float)
  | text (value : String)
  | sequence
  | map

/-- What was expected, as messages name it. -/
structure Expectation where
  name : String
deriving DecidableEq, Repr

inductive Fault where
  | endInValue
  | endInList
  | endInObject
  | endInText
  | expectedColon
  | expectedCommaOrBracket
  | expectedCommaOrBrace
  | expectedWord
  | expectedValue
  | invalidEscape
  | invalidNumber
  | numberOutOfRange
  | loneSurrogate
  | unfinishedSurrogate
  | controlCharacter
  | keyNotText
  | trailingComma
  | trailingCharacters
  | invalidType (found : Found) (expected : Expectation)
  | invalidValue (found : Found) (expected : Expectation)
  | duplicateField (name : String)
  | unknownField (name : String) (known : List String)

def Found.render : Found → String
  | .null => "null"
  | .boolean value => s!"boolean `{value}`"
  | .integer value => s!"integer `{value}`"
  | .float value => s!"floating point `{Decimal.plain.renderFloat value}`"
  | .text value => s!"string {Text.Quoted.encode value}"
  | .sequence => "sequence"
  | .map => "map"

def Fault.message : Fault → String
  | .endInValue => "EOF while parsing a value"
  | .endInList => "EOF while parsing a list"
  | .endInObject => "EOF while parsing an object"
  | .endInText => "EOF while parsing a string"
  | .expectedColon => "expected `:`"
  | .expectedCommaOrBracket => "expected `,` or `]`"
  | .expectedCommaOrBrace => "expected `,` or `\x7d`"
  | .expectedWord => "expected ident"
  | .expectedValue => "expected value"
  | .invalidEscape => "invalid escape"
  | .invalidNumber => "invalid number"
  | .numberOutOfRange => "number out of range"
  | .loneSurrogate => "lone leading surrogate in hex escape"
  | .unfinishedSurrogate => "unexpected end of hex escape"
  | .controlCharacter => "control character (\\u0000-\\u001F) found while parsing a string"
  | .keyNotText => "key must be a string"
  | .trailingComma => "trailing comma"
  | .trailingCharacters => "trailing characters"
  | .invalidType found expected => s!"invalid type: {found.render}, expected {expected.name}"
  | .invalidValue found expected => s!"invalid value: {found.render}, expected {expected.name}"
  | .duplicateField name => s!"duplicate field `{name}`"
  | .unknownField name known =>
    s!"unknown field `{name}`, expected one of " ++
      ", ".intercalate (known.map fun k => "`" ++ k ++ "`")

end GuestNic.Json
