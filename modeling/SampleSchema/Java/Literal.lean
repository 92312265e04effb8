import SampleSchema.Text.Escape
import SampleSchema.Text.Point
/-!
Java string literals. Quotes, backslashes and control characters are escaped,
so that the text of a literal stays on one line and ends where it should. Halves of
surrogate pairs stand for themselves.
-/

namespace SampleSchema.Java.Literal

open Text

def escapeChar (c : Char) : List Char :=
  match Escape.letter? c with
  | some l => ['\\', l]
  | none => if c.toNat < 0x20 || c.toNat == 0x7F then '\\' :: 'u' :: Hex.digits 4 c.toNat else [c]

def escapePoint : Point → Points
  | .char c => (escapeChar c).map .char
  | .half n => [.half n]

/-- The text of a literal between its quotes. -/
def escape (s : Points) : Points := s.flatMap escapePoint

end SampleSchema.Java.Literal
