/-! What can be wrong with a document: its form, or the shape of what it holds. -/

namespace DungeonHooks.Json

/-- A reason why a text is not a well-formed document. -/
inductive Fault where
  | endInList
  | endInObject
  | endInString
  | endInValue
  | expectedColon
  | expectedListEnd
  | expectedObjectEnd
  | expectedWord
  | expectedValue
  | expectedQuote
  | expectedNumericKey
  | invalidEscape
  | invalidNumber
  | numberOutOfRange
  | controlCharacter
  | keyNotString
  | loneSurrogate
  | trailingComma
  | trailingCharacters
  | endOfHexEscape
  | recursionLimit
  deriving DecidableEq, Inhabited

/-- The text of a fault. -/
def Fault.message : Fault → String
  | .endInList => "EOF while parsing a list"
  | .endInObject => "EOF while parsing an object"
  | .endInString => "EOF while parsing a string"
  | .endInValue => "EOF while parsing a value"
  | .expectedColon => "expected `:`"
  | .expectedListEnd => "expected `,` or `]`"
  | .expectedObjectEnd => "expected `,` or `\x7d`"
  | .expectedWord => "expected ident"
  | .expectedValue => "expected value"
  | .expectedQuote => "expected `\"`"
  | .expectedNumericKey => "invalid value: expected key to be a number in quotes"
  | .invalidEscape => "invalid escape"
  | .invalidNumber => "invalid number"
  | .numberOutOfRange => "number out of range"
  | .controlCharacter => "control character (\\u0000-\\u001F) found while parsing a string"
  | .keyNotString => "key must be a string"
  | .loneSurrogate => "lone leading surrogate in hex escape"
  | .trailingComma => "trailing comma"
  | .trailingCharacters => "trailing characters"
  | .endOfHexEscape => "unexpected end of hex escape"
  | .recursionLimit => "recursion limit exceeded"

/-- A place where a text breaks off, as it is reported by who reads the value there, who skips it, and who needs no further element. -/
structure Break where
  read : Fault
  skipped : Fault := read
  closing : Fault := read
  deriving DecidableEq, Inhabited

/-- What a value is found to be, where something else is wanted. -/
inductive Found where
  | null
  | bool (value : Bool)
  | integer (value : Int)
  /-- A number that is no integer, by its text. -/
  | real (digits : String)
  /-- A string, by its display text. -/
  | text (display : String)
  | sequence
  | map
  deriving DecidableEq, Inhabited

/-- The words for what was found. -/
def Found.describe : Found → String
  | .null => "null"
  | .bool value => s!"boolean `{value}`"
  | .integer value => s!"integer `{value}`"
  | .real digits => s!"floating point `{digits}`"
  | .text display => s!"string {display}"
  | .sequence => "sequence"
  | .map => "map"

/-- A well-formed value that does not have the wanted shape. -/
inductive Misfit where
  | wrongType (found : Found) (want : String)
  | outOfRange (value : Int) (want : String)
  | wrongLength (count : Nat) (want : String)
  | missingField (name : String)
  | duplicateField (name : String)
  | unknownVariant (name : String) (variants : List String)
  deriving DecidableEq, Inhabited

/-- Names in backquotes, as a message lists them. -/
def listed (names : List String) : String :=
  ", ".intercalate (names.map fun name => s!"`{name}`")

/-- The text of a misfit. -/
def Misfit.message : Misfit → String
  | .wrongType found want => s!"invalid type: {found.describe}, expected {want}"
  | .outOfRange value want => s!"invalid value: integer `{value}`, expected {want}"
  | .wrongLength count want => s!"invalid length {count}, expected {want}"
  | .missingField name => s!"missing field `{name}`"
  | .duplicateField name => s!"duplicate field `{name}`"
  | .unknownVariant name variants =>
    s!"unknown variant `{name}`, expected one of {listed variants}"

/-- Why a document could not be read. -/
inductive ReadError where
  | malformed (fault : Fault)
  | misfit (reason : Misfit)
  deriving DecidableEq, Inhabited

/-- The text of a read error. -/
def ReadError.message : ReadError → String
  | .malformed fault => fault.message
  | .misfit reason => reason.message

end DungeonHooks.Json
