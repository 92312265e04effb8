import SampleSchema.Json.Reader
import SampleSchema.Text.Digit
/-!
Numbers as they are typed on a command line. Blanks around a number are passed
over, a single underscore may stand between two digits, and the digits may come
from any script.
-/

namespace SampleSchema.CommandLine.Numeral

open Text Json

def trim (s : List Char) : List Char :=
  ((s.dropWhile isBlank).reverse.dropWhile isBlank).reverse

/-- A digit of any script as an ASCII digit, any other character as it is. -/
def plainDigit (c : Char) : Char :=
  match digitValue? c with
  | some n => Char.ofNat ('0'.toNat + n)
  | none => c

/-- The sign in front of a number, and what follows it. -/
def splitSign : List Char → Bool × List Char
  | '-' :: rest => (true, rest)
  | '+' :: rest => (false, rest)
  | s => (false, s)

/-- The digits at the front of a text, without the underscores between them, and
what follows them. -/
def digits : List Char → List Char × List Char
  | [] => ([], [])
  | [c] => if c.isDigit then ([c], []) else ([], [c])
  | c :: '_' :: rest =>
      if c.isDigit then
        match digits rest with
        | ([], _) => ([c], '_' :: rest)
        | (ds, after) => (c :: ds, after)
      else ([], c :: '_' :: rest)
  | c :: next :: rest =>
      if c.isDigit then
        let (ds, after) := digits (next :: rest)
        (c :: ds, after)
      else ([], c :: next :: rest)

def integer? (s : String) : Option Int :=
  let (negative, body) := splitSign (trim (s.toList.map plainDigit))
  match digits body with
  | ([], _) => none
  | (ds, []) =>
      if Reader.digitLimit < ds.length then none
      else
        let n : Int := decimalValue ds
        some (if negative then -n else n)
  | _ => none

/-- The fraction after the integer part of a float: a point and digits. -/
def fraction : List Char → List Char × List Char
  | '.' :: rest => digits rest
  | s => ([], s)

def exponent? : List Char → Option (List Char)
  | [] => some []
  | e :: rest =>
      if e = 'e' ∨ e = 'E' then
        let (negative, body) := splitSign rest
        match digits body with
        | (d :: ds, []) => some ((if negative then ['e', '-'] else ['e']) ++ d :: ds)
        | _ => none
      else none

/-- The spelling in JSON of an unsigned float. -/
def unsignedDecimal? (body : List Char) : Option (List Char) :=
  let word := String.ofList (body.map Char.toLower)
  if word = "inf" ∨ word = "infinity" then some "Infinity".toList
  else if word = "nan" then some "NaN".toList
  else
    let (whole, rest) := digits body
    let (part, rest) := fraction rest
    if whole.isEmpty && part.isEmpty then none
    else (exponent? rest).map fun e =>
      (if whole.isEmpty then ['0'] else whole) ++ '.' :: (if part.isEmpty then ['0'] else part) ++ e

/-- Read a float. The result is its spelling in JSON. -/
def decimal? (s : String) : Option String :=
  let (negative, body) := splitSign (trim (s.toList.map plainDigit))
  (unsignedDecimal? body).map fun lexeme =>
    String.ofList (if negative && lexeme ≠ "NaN".toList then '-' :: lexeme else lexeme)

def isNegativeNumber (s : String) : Bool :=
  let isDigit := fun c => (digitValue? c).isSome
  let body := if s.toList.getLast? = some '\n' then s.toList.dropLast else s.toList
  match body with
  | '-' :: rest =>
      (!rest.isEmpty && rest.all isDigit) ||
        match rest.dropWhile isDigit with
        | '.' :: part => !part.isEmpty && part.all isDigit
        | _ => false
  | _ => false

end SampleSchema.CommandLine.Numeral
