import SampleSchema.Text.Digit
/-!
The value of a float's spelling: an integer part, a fraction and an exponent, or
one of the names of the values that have no digits. The value is the nearest
double; an exponent beyond all doubles is not worked out.
-/

namespace SampleSchema.Json.Decimal

open Text

/-- The value of the exponent that follows an exponent mark. -/
def exponent : List Char → Int
  | '-' :: ds => -(decimalValue ds : Int)
  | '+' :: ds => decimalValue ds
  | ds => decimalValue ds

/-- The double nearest to `mantissa · 10 ^ power`. -/
def nearest (mantissa : Nat) (power : Int) (digits : Nat) : Float :=
  if mantissa = 0 then 0.0
  else if 400 < power then 1.0 / 0.0
  else if power + digits < -400 then 0.0
  else Float.ofScientific mantissa (power < 0) power.natAbs

def unsigned (s : List Char) : Float :=
  let whole := s.takeWhile Char.isDigit
  let rest := s.dropWhile Char.isDigit
  let (fraction, rest) :=
    match rest with
    | '.' :: rest => (rest.takeWhile Char.isDigit, rest.dropWhile Char.isDigit)
    | rest => ([], rest)
  let power : Int := match rest with
    | _ :: e => exponent e
    | [] => 0
  nearest (decimalValue (whole ++ fraction)) (power - fraction.length)
    (whole.length + fraction.length)

def value (lexeme : String) : Float :=
  if lexeme = "NaN" then 0.0 / 0.0
  else if lexeme = "Infinity" then 1.0 / 0.0
  else if lexeme = "-Infinity" then -1.0 / 0.0
  else match lexeme.toList with
    | '-' :: s => -(unsigned s)
    | s => unsigned s

end SampleSchema.Json.Decimal
