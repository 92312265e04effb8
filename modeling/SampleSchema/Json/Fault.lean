import SampleSchema.Text.Position
/-!
Why a text is no JSON document. A syntax fault carries the text that was left
when it was found, which determines its place.
-/

namespace SampleSchema.Json

open SampleSchema.Text

inductive Cause where
  /-- The text starts with a byte order mark. -/
  | byteOrderMark
  | expectingValue
  | expectingName
  | expectingColon
  | expectingComma
  | extraData
  | unterminatedString
  | controlCharacter
  | invalidEscape
  | invalidUnicodeEscape
  deriving DecidableEq, Repr

def Cause.message : Cause → String
  | byteOrderMark => "Unexpected UTF-8 BOM (decode using utf-8-sig)"
  | expectingValue => "Expecting value"
  | expectingName => "Expecting property name enclosed in double quotes"
  | expectingColon => "Expecting ':' delimiter"
  | expectingComma => "Expecting ',' delimiter"
  | extraData => "Extra data"
  | unterminatedString => "Unterminated string starting at"
  | controlCharacter => "Invalid control character at"
  | invalidEscape => "Invalid \\escape"
  | invalidUnicodeEscape => "Invalid \\uXXXX escape"

inductive Fault where
  /-- The syntax is wrong where the characters `rest` are left. -/
  | malformed (cause : Cause) (rest : List Char)
  /-- Arrays and objects are nested beyond the limit. -/
  | tooDeep
  /-- An integer has more digits than can be converted. -/
  | longInteger (digits : Nat)
  deriving DecidableEq, Repr

def longIntegerMessage (digits : Nat) : String :=
  "Exceeds the limit (4300 digits) for integer string conversion: value has "
    ++ toString digits
    ++ " digits; use sys.set_int_max_str_digits() to increase the limit"

/-- The wording of a syntax fault together with its place. -/
def Cause.messageAt (cause : Cause) (p : Position) : String :=
  cause.message ++ ": line " ++ toString p.line ++ " column " ++ toString p.column
    ++ " (char " ++ toString p.offset ++ ")"

end SampleSchema.Json
