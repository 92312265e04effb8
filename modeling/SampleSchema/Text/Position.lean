/-!
Places in a text: the number of characters before the place, its line and its
column. Lines are counted from one and end at a line feed; columns are counted
from one, so that the first character after a line feed stands in column one.
-/

namespace SampleSchema.Text

structure Position where
  offset : Nat
  line : Nat
  column : Nat
  deriving DecidableEq, Repr

namespace Position

def start : Position := ⟨0, 1, 1⟩

def advance (p : Position) (c : Char) : Position :=
  if c = '\n' then ⟨p.offset + 1, p.line + 1, 1⟩
  else ⟨p.offset + 1, p.line, p.column + 1⟩

def after (passed : List Char) : Position := passed.foldl advance start

/-- The place in `text` where the characters `rest` are left. -/
def ofRest (text rest : List Char) : Position :=
  after (text.take (text.length - rest.length))

end Position
end SampleSchema.Text
