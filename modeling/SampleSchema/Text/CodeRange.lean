/-!
Tables of character properties. A property is a list of closed ranges of code
points in ascending order; a one-to-one mapping is a list of rows, each of
which shifts the code points of an arithmetic progression by one amount.
-/

namespace SampleSchema.Text

def inRanges (ranges : List (Nat × Nat)) (n : Nat) : Bool :=
  ranges.any fun r => r.1 ≤ n && n ≤ r.2

/-- The code points `first`, `first + stride`, …, `last` are mapped to
themselves plus `shift`. -/
structure ShiftRow where
  first : Nat
  last : Nat
  stride : Nat
  shift : Int

namespace ShiftRow

def covers (r : ShiftRow) (n : Nat) : Bool :=
  r.first ≤ n && n ≤ r.last && (n - r.first) % r.stride == 0

def apply (r : ShiftRow) (n : Nat) : Nat := (n + r.shift).toNat

end ShiftRow

def shifted? (rows : List ShiftRow) (n : Nat) : Option Nat :=
  (rows.find? (·.covers n)).map (·.apply n)

end SampleSchema.Text
