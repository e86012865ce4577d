import DocBatch.Number.Shortest
import DocBatch.Text.Quoted

/-!
# Why JSON could not be read

A fault is either a fault of the text (its syntax, or a nesting deeper than the reader
allows) or a mismatch between the text and the type being read: a value of the wrong kind,
a number out of the type's range, a sequence of the wrong length, an unknown variant, or a
missing or repeated field. Faults found in text carry the line and column where reading
stopped; columns count octets from the start of the line.

`DecodeError.message` is the text of a fault: the cause, then ` at line L column C` when a
position is known.
-/

namespace DocBatch

namespace Json

/-- Faults of the text itself. -/
inductive Malformed where
  | eofList
  | eofObject
  | eofString
  | eofValue
  | expectedColon
  | expectedListCommaOrEnd
  | expectedObjectCommaOrEnd
  | expectedIdent
  | expectedValue
  | invalidEscape
  | invalidNumber
  | numberOutOfRange
  | invalidUnicodeCodePoint
  | controlCharacter
  | keyMustBeAString
  | loneLeadingSurrogate
  | trailingComma
  | trailingCharacters
  | unexpectedEndOfHexEscape
  | recursionLimitExceeded
  deriving Repr, DecidableEq

/-- The text of a syntax fault. -/
def Malformed.message : Malformed → String
  | .eofList => "EOF while parsing a list"
  | .eofObject => "EOF while parsing an object"
  | .eofString => "EOF while parsing a string"
  | .eofValue => "EOF while parsing a value"
  | .expectedColon => "expected `:`"
  | .expectedListCommaOrEnd => "expected `,` or `]`"
  | .expectedObjectCommaOrEnd => "expected `,` or `\x7d`"
  | .expectedIdent => "expected ident"
  | .expectedValue => "expected value"
  | .invalidEscape => "invalid escape"
  | .invalidNumber => "invalid number"
  | .numberOutOfRange => "number out of range"
  | .invalidUnicodeCodePoint => "invalid unicode code point"
  | .controlCharacter => "control character (\\u0000-\\u001F) found while parsing a string"
  | .keyMustBeAString => "key must be a string"
  | .loneLeadingSurrogate => "lone leading surrogate in hex escape"
  | .trailingComma => "trailing comma"
  | .trailingCharacters => "trailing characters"
  | .unexpectedEndOfHexEscape => "unexpected end of hex escape"
  | .recursionLimitExceeded => "recursion limit exceeded"

/-- What was found where something else was expected, as messages name it. -/
inductive Found where
  | null
  | bool (b : Bool)
  | int (i : Int)
  | float (x : Binary64)
  | str (s : String)
  | seq
  | map
  deriving Repr, DecidableEq

/-- How a found value is named in messages. -/
def Found.describe : Found → String
  | .null => "null"
  | .bool b => "boolean `" ++ toString b ++ "`"
  | .int i => "integer `" ++ toString i ++ "`"
  | .float x => "floating point `" ++ x.scientific ++ "`"
  | .str s => "string " ++ Quoted.debug s
  | .seq => "sequence"
  | .map => "map"

/-- A fault of reading, without its position. -/
inductive Fault where
  | malformed (s : Malformed)
  | wrongType (found : Found) (expected : String)
  | wrongValue (found : Found) (expected : String)
  | wrongLength (length : Nat) (expected : String)
  | unknownVariant (name : String) (variants : List String)
  | missingField (name : String)
  | duplicateField (name : String)
  deriving Repr, DecidableEq

/-- A list of alternatives as messages write it: `a`, `a` or `b`, one of `a`, `b`, `c`. -/
def oneOf (names : List String) : String :=
  let tick (n : String) := "`" ++ n ++ "`"
  match names with
  | [] => "nothing"
  | [a] => tick a
  | [a, b] => tick a ++ " or " ++ tick b
  | _ => "one of " ++ ", ".intercalate (names.map tick)

/-- The text of a fault. -/
def Fault.message : Fault → String
  | .malformed s => s.message
  | .wrongType found expected => "invalid type: " ++ found.describe ++ ", expected " ++ expected
  | .wrongValue found expected => "invalid value: " ++ found.describe ++ ", expected " ++ expected
  | .wrongLength n expected => "invalid length " ++ toString n ++ ", expected " ++ expected
  | .unknownVariant name [] => "unknown variant `" ++ name ++ "`, there are no variants"
  | .unknownVariant name variants => "unknown variant `" ++ name ++ "`, expected " ++ oneOf variants
  | .missingField name => "missing field `" ++ name ++ "`"
  | .duplicateField name => "duplicate field `" ++ name ++ "`"

/-- A line (from 1) and a column (octets from the start of the line). -/
structure Position where
  line : Nat
  column : Nat
  deriving Repr, DecidableEq

/-- A fault, with the position where reading stopped when reading text. -/
structure DecodeError where
  fault : Fault
  pos : Option Position := none
  deriving Repr, DecidableEq

/-- The text of a decoding fault. -/
def DecodeError.message (e : DecodeError) : String :=
  match e.pos with
  | none => e.fault.message
  | some p => e.fault.message ++ " at line " ++ toString p.line ++ " column " ++ toString p.column

end Json

end DocBatch
