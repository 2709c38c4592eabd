import ServerLauncher.Text.Utf8
import ServerLauncher.Text.Quoted
import ServerLauncher.Decimal.Shortest

/-!
# Faults of a JSON document

A document is read up to its first fault. A `Fault` says why the reading stopped and where, as the
number of bytes of the text up to and including the place, and `Fault.message` words it with line
and column.
-/

namespace ServerLauncher.Json

/-! ## Causes -/

/-- A value of a kind that was not asked for. -/
inductive Found where
  | null
  | bool (b : Bool)
  | integer (n : Int)
  | float (negative : Bool) (magnitude : Binary64)
  | string (s : String)
  | map
  | sequence
  deriving Repr, DecidableEq

/-- Why a document is refused. -/
inductive Reason where
  | eofInValue
  | eofInString
  | eofInList
  | eofInObject
  | expectedValue
  | expectedColon
  | expectedListEnd
  | expectedObjectEnd
  | expectedLiteral
  | keyNotString
  | trailingComma
  | trailingCharacters
  | invalidNumber
  | numberOutOfRange
  | invalidEscape
  | unpairedEscape
  | loneSurrogate
  | controlCharacter
  | invalidType (found : Found) (expected : String)
  | invalidLength (length : Nat) (expected : String)
  | missingField (field : String)
  | duplicateField (field : String)
  deriving Repr, DecidableEq

/-- Where and why the reading of a document stopped. -/
structure Fault where
  reason : Reason
  offset : Nat
  deriving Repr, DecidableEq

/-! ## Wording -/

/-- The value as a message names it. -/
def Found.text : Found → String
  | .null => "null"
  | .bool b => "boolean `" ++ toString b ++ "`"
  | .integer n => "integer `" ++ toString n ++ "`"
  | .float negative x => "floating point `" ++ (if negative then "-" else "") ++ x.text ++ "`"
  | .string s => "string " ++ quote s
  | .map => "map"
  | .sequence => "sequence"

/-- The cause in words. -/
def Reason.message : Reason → String
  | .eofInValue => "EOF while parsing a value"
  | .eofInString => "EOF while parsing a string"
  | .eofInList => "EOF while parsing a list"
  | .eofInObject => "EOF while parsing an object"
  | .expectedValue => "expected value"
  | .expectedColon => "expected `:`"
  | .expectedListEnd => "expected `,` or `]`"
  | .expectedObjectEnd => "expected `,` or `\x7d`"
  | .expectedLiteral => "expected ident"
  | .keyNotString => "key must be a string"
  | .trailingComma => "trailing comma"
  | .trailingCharacters => "trailing characters"
  | .invalidNumber => "invalid number"
  | .numberOutOfRange => "number out of range"
  | .invalidEscape => "invalid escape"
  | .unpairedEscape => "unexpected end of hex escape"
  | .loneSurrogate => "lone leading surrogate in hex escape"
  | .controlCharacter => "control character (\\u0000-\\u001F) found while parsing a string"
  | .invalidType found expected => "invalid type: " ++ found.text ++ ", expected " ++ expected
  | .invalidLength n expected => "invalid length " ++ toString n ++ ", expected " ++ expected
  | .missingField f => "missing field `" ++ f ++ "`"
  | .duplicateField f => "duplicate field `" ++ f ++ "`"

/-- The byte of a line feed. -/
def newline : UInt8 := 0x0A

/-- The line, counted from one, that the first `offset` bytes end in. -/
def lineAt (bs : Bytes) (offset : Nat) : Nat :=
  (bs.take offset).count newline + 1

/-- How many of the first `offset` bytes stand in the last line of them. -/
def columnAt (bs : Bytes) (offset : Nat) : Nat :=
  ((bs.take offset).reverse.takeWhile (· != newline)).length

/-- The fault in words, for the text that was read. -/
def Fault.message (f : Fault) (text : String) : String :=
  f.reason.message ++ " at line " ++ toString (lineAt (Utf8.encode text) f.offset) ++
    " column " ++ toString (columnAt (Utf8.encode text) f.offset)

end ServerLauncher.Json
