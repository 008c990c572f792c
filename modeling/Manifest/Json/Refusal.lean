import Manifest.Text.Basic

/-!
# Why a document is not JSON

What is wrong at the place where reading stops, and the place as a line and a column.
-/

namespace Manifest.Json

open Text (byteCount)

/-- What is wrong with a document. -/
inductive Cause where
  /-- The text ends where a value or the rest of one should stand. -/
  | endInValue
  /-- The text ends inside a string. -/
  | endInString
  /-- The text ends inside a sequence. -/
  | endInList
  /-- The text ends inside an object. -/
  | endInObject
  /-- Something that starts no value stands where a value should. -/
  | expectedValue
  /-- A word starts like a literal and goes on otherwise. -/
  | expectedLiteral
  /-- No colon follows a member's name. -/
  | expectedColon
  /-- Something other than a comma or a closing bracket follows an item. -/
  | expectedListEnd
  /-- Something other than a comma or a closing brace follows a member. -/
  | expectedObjectEnd
  /-- A member's name is not a string. -/
  | nameNotString
  /-- A comma stands before a closing bracket or brace. -/
  | trailingComma
  /-- Something follows the value. -/
  | trailingCharacters
  /-- A number is not well formed. -/
  | badNumber
  /-- A number is past the largest binary64 number. -/
  | numberOutOfRange
  /-- An escape is not well formed. -/
  | badEscape
  /-- A control character stands in a string. -/
  | controlCharacter
  /-- A surrogate has no partner. -/
  | loneSurrogate
  /-- No second escape follows a leading surrogate. -/
  | unfinishedSurrogate
  /-- Too many containers are open. -/
  | tooDeep
  deriving DecidableEq, Repr

/-- What a cause says. -/
def Cause.message : Cause → String
  | endInValue => "EOF while parsing a value"
  | endInString => "EOF while parsing a string"
  | endInList => "EOF while parsing a list"
  | endInObject => "EOF while parsing an object"
  | expectedValue => "expected value"
  | expectedLiteral => "expected ident"
  | expectedColon => "expected `:`"
  | expectedListEnd => "expected `,` or `]`"
  | expectedObjectEnd => "expected `,` or `\x7d`"
  | nameNotString => "key must be a string"
  | trailingComma => "trailing comma"
  | trailingCharacters => "trailing characters"
  | badNumber => "invalid number"
  | numberOutOfRange => "number out of range"
  | badEscape => "invalid escape"
  | controlCharacter => "control character (\\u0000-\\u001F) found while parsing a string"
  | loneSurrogate => "lone leading surrogate in hex escape"
  | unfinishedSurrogate => "unexpected end of hex escape"
  | tooDeep => "recursion limit exceeded"

/-- Why and where reading stops. -/
structure Refusal where
  /-- What is wrong. -/
  cause : Cause
  /-- How many bytes of the document lie behind the place. -/
  bytesLeft : Nat
  deriving DecidableEq, Repr

/-- A place in a text. -/
structure Position where
  /-- The line, counted from one. -/
  line : Nat
  /-- The bytes between the start of the line and the place. -/
  column : Nat
  deriving DecidableEq, Repr

/-- The place that lies `offset` bytes behind `start`. -/
def Position.advance (start : Position) : Nat → List Char → Position
  | 0, _ => start
  | offset, [] => ⟨start.line, start.column + offset⟩
  | offset, c :: cs =>
    if offset < c.utf8Size then ⟨start.line, start.column + offset⟩
    else if c = '\n' then Position.advance ⟨start.line + 1, 0⟩ (offset - 1) cs
    else Position.advance ⟨start.line, start.column + c.utf8Size⟩ (offset - c.utf8Size) cs

/-- What is wrong with a document, and where. -/
structure Fault where
  /-- What is wrong. -/
  cause : Cause
  /-- The place. -/
  position : Position
  deriving DecidableEq, Repr

/-- A refusal as seen from its document. -/
def Refusal.fault (refusal : Refusal) (document : List Char) : Fault :=
  ⟨refusal.cause, Position.advance ⟨1, 0⟩ (byteCount document - refusal.bytesLeft) document⟩

/-- What a fault says. -/
def Fault.message (fault : Fault) : String :=
  s!"{fault.cause.message} at line {fault.position.line} column {fault.position.column}"

end Manifest.Json
