import NestedWorkflow.Json.Value

/-!
# Faults in a text

What can be wrong with the spelling of a JSON object.  A fault is noted with the bytes behind the
place where it shows, so its position follows from their number.
-/

namespace NestedWorkflow.Json

/-- What can be wrong with the spelling of an object. -/
inductive Fault
  | endInList
  | endInObject
  | endInString
  | endInValue
  | noColon
  | noListComma
  | noObjectComma
  | noWord
  | noValue
  | badEscape
  | badNumber
  | numberTooLarge
  | badText
  | controlCharacter
  | keyIsNoText
  | loneSurrogate
  | brokenSurrogatePair
  | trailingComma
  | trailingCharacters
  | tooDeep
  /-- A value of another kind where an object should be. -/
  | noObject (found : String)
deriving DecidableEq

/-- The report of a fault. -/
def Fault.message : Fault → String
  | .endInList => "EOF while parsing a list"
  | .endInObject => "EOF while parsing an object"
  | .endInString => "EOF while parsing a string"
  | .endInValue => "EOF while parsing a value"
  | .noColon => "expected `:`"
  | .noListComma => "expected `,` or `]`"
  | .noObjectComma => "expected `,` or `\x7d`"
  | .noWord => "expected ident"
  | .noValue => "expected value"
  | .badEscape => "invalid escape"
  | .badNumber => "invalid number"
  | .numberTooLarge => "number out of range"
  | .badText => "invalid unicode code point"
  | .controlCharacter => "control character (\\u0000-\\u001F) found while parsing a string"
  | .keyIsNoText => "key must be a string"
  | .loneSurrogate => "lone leading surrogate in hex escape"
  | .brokenSurrogatePair => "unexpected end of hex escape"
  | .trailingComma => "trailing comma"
  | .trailingCharacters => "trailing characters"
  | .tooDeep => "recursion limit exceeded"
  | .noObject found => "invalid type: " ++ found ++ ", expected a map"

/-- A fault, and the bytes behind the place where it shows. -/
structure Complaint where
  fault : Fault
  left : List UInt8

namespace Complaint

/-- Bytes that are looked at for faults. -/
abbrev Bytes := List UInt8

/-- A step over the bytes: what it found and the bytes behind, or a complaint. -/
abbrev Step (α : Type) := Except Complaint (α × Bytes)

/-- A fault that shows before the byte at hand. -/
def here {α : Type} (fault : Fault) (bs : Bytes) : Step α := .error ⟨fault, bs⟩

/-- A fault that the byte at hand shows. -/
def atNext {α : Type} (fault : Fault) (bs : Bytes) : Step α := .error ⟨fault, bs.tail⟩

end Complaint

end NestedWorkflow.Json
