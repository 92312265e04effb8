import SampleSchema.Json.Value
import SampleSchema.Text.Escape
/-!
Printing JSON in ASCII, with one element or member a line and two blanks of
indentation a level. Empty arrays and objects are printed on one line.
-/

namespace SampleSchema.Json.Printer

open Text

def unitEscape (u : Nat) : List Char := '\\' :: 'u' :: Hex.digits 4 u

/-- A character inside a string. Beyond ASCII it is written as one 16-bit unit
or as a surrogate pair. -/
def escapeChar (c : Char) : List Char :=
  match Escape.letter? c with
  | some l => ['\\', l]
  | none =>
      if 0x20 ≤ c.toNat ∧ c.toNat < 0x7F then [c]
      else if c.toNat < 0x10000 then unitEscape c.toNat
      else
        let n := c.toNat - 0x10000
        unitEscape (0xD800 + n / 0x400) ++ unitEscape (0xDC00 + n % 0x400)

/-- A code point inside a string. A half is the unit that it is. -/
def escapePoint : Point → List Char
  | .char c => escapeChar c
  | .half n => unitEscape (0xD800 + n)

def string (s : Points) : List Char := '"' :: s.flatMap escapePoint ++ ['"']

def newLine (level : Nat) : List Char := '\n' :: List.replicate (2 * level) ' '

mutual

/-- A value whose closing bracket stands on `level`. -/
def value (level : Nat) : Document → List Char
  | .null => "null".toList
  | .bool true => "true".toList
  | .bool false => "false".toList
  | .int n => (toString n).toList
  | .float lexeme => lexeme.toList
  | .string s => string s
  | .array [] => ['[', ']']
  | .array (v :: vs) =>
      '[' :: newLine (level + 1) ++ value (level + 1) v ++ elements (level + 1) vs
        ++ newLine level ++ [']']
  | .object [] => ['{', '}']
  | .object ((k, v) :: ms) =>
      '{' :: newLine (level + 1) ++ string k ++ [':', ' '] ++ value (level + 1) v
        ++ members (level + 1) ms ++ newLine level ++ ['}']

/-- The further elements of an array, a comma before each. -/
def elements (level : Nat) : List Document → List Char
  | [] => []
  | v :: vs => ',' :: newLine level ++ value level v ++ elements level vs

/-- The further members of an object, a comma before each. -/
def members (level : Nat) : List (Points × Document) → List Char
  | [] => []
  | (k, v) :: ms =>
      ',' :: newLine level ++ string k ++ [':', ' '] ++ value level v ++ members level ms

end

end SampleSchema.Json.Printer

namespace SampleSchema.Json

def print (v : Document) : String := String.ofList (Printer.value 0 v)

end SampleSchema.Json
