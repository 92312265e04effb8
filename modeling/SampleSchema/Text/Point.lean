import SampleSchema.Text.Hex
/-!
Text as code points. JSON can write half of a surrogate pair that stands alone. No
`String` holds it, so what comes from a document is kept as its code points.
-/

namespace SampleSchema.Text

/-- A code point: a character, or a half of a surrogate pair that stands alone. -/
inductive Point where
  | char (c : Char)
  /-- The code point U+D800 + `n`. -/
  | half (n : Fin 0x800)
  deriving DecidableEq, Repr

namespace Point

instance : Coe Char Point := ⟨char⟩

def code : Point → Nat
  | char c => c.toNat
  | half n => 0xD800 + n

instance : LT Point := ⟨fun p q => p.code < q.code⟩

instance : LE Point := ⟨fun p q => p.code ≤ q.code⟩

instance (p q : Point) : Decidable (p < q) := inferInstanceAs (Decidable (p.code < q.code))

instance (p q : Point) : Decidable (p ≤ q) := inferInstanceAs (Decidable (p.code ≤ q.code))

def isHalf : Point → Bool
  | char _ => false
  | half _ => true

/-- The character, or U+FFFD in place of a half. -/
def shown : Point → Char
  | char c => c
  | half _ => '\uFFFD'

/-- The character, or the escape of a half. -/
def escaped : Point → List Char
  | char c => [c]
  | half n => '\\' :: 'u' :: Hex.digits 4 (0xD800 + n)

end Point

/-- A text as its code points, which are ordered like their numbers. -/
abbrev Points : Type := List Point

namespace Points

def ofString (s : String) : Points := s.toList.map .char

instance : Coe String Points := ⟨ofString⟩

/-- No half stands alone, so that the text is a string. -/
def isString (s : Points) : Bool := s.all fun p => !p.isHalf

/-- The string with U+FFFD in place of each half. -/
def shown (s : Points) : String := String.ofList (s.map Point.shown)

/-- The string with an escape in place of each half. -/
def escaped (s : Points) : String := String.ofList (s.flatMap Point.escaped)

end Points
end SampleSchema.Text
