/-!
Escapes of one letter: a backslash and a letter stand for a character that a
string cannot hold as it is.
-/

namespace SampleSchema.Text.Escape

/-- The letter that stands for a character after a backslash. -/
def letter? : Char → Option Char
  | '"' => some '"'
  | '\\' => some '\\'
  | '\x08' => some 'b'
  | '\x0c' => some 'f'
  | '\n' => some 'n'
  | '\r' => some 'r'
  | '\t' => some 't'
  | _ => none

/-- The character that a letter stands for after a backslash. -/
def ofLetter? : Char → Option Char
  | '"' => some '"'
  | '\\' => some '\\'
  | 'b' => some '\x08'
  | 'f' => some '\x0c'
  | 'n' => some '\n'
  | 'r' => some '\r'
  | 't' => some '\t'
  | _ => none

/-- Every letter stands for the character that it is written for. -/
theorem ofLetter?_of_letter? {c l : Char} (h : letter? c = some l) : ofLetter? l = some c := by
  unfold letter? at h
  split at h <;> cases h <;> rfl

end SampleSchema.Text.Escape
