import SampleSchema.Json.Value
import SampleSchema.Json.Fault
import SampleSchema.Text.Digit
import SampleSchema.Text.Escape
/-!
Reading JSON text. Every reading function takes the characters that are left
and returns what it read with the characters after it, or the fault it met.

Strings, arrays and objects are read with fuel. Each of them takes a character
for every turn, so the length of the whole text, which is passed to all of them
as their `bound`, is fuel enough.

Arrays and objects may be nested `depthLimit` deep. An integer may have at most
`digitLimit` digits. Of a repeated key the last value counts, at the place of
the first. A `\u` escape of an unpaired surrogate is read as the half that it is.
-/

namespace SampleSchema.Json.Reader

open Text

/-- Arrays and objects may be nested this deep. -/
def depthLimit : Nat := 990

/-- Integers may have this many digits, their sign not counted. -/
def digitLimit : Nat := 4300

def isBlank (c : Char) : Bool := c == ' ' || c == '\t' || c == '\n' || c == '\r'

/-- To read is to take something from the front of the characters that are left. -/
abbrev Reads (α : Type) : Type := List Char → Except Fault (α × List Char)

def skipBlanks (s : List Char) : List Char := s.dropWhile isBlank

/-! ## Strings -/

/-- The 16-bit unit written by the four digits at the front. It is only read
when a character follows the digits, since no string can end there. -/
def unit? : List Char → Option (Nat × List Char)
  | a :: b :: c :: d :: next :: rest => do
      let a ← Hex.value? a
      let b ← Hex.value? b
      let c ← Hex.value? c
      let d ← Hex.value? d
      return (((a * 16 + b) * 16 + c) * 16 + d, next :: rest)
  | _ => none

def isHighSurrogate (u : Nat) : Bool := 0xD800 ≤ u && u < 0xDC00

def isLowSurrogate (u : Nat) : Bool := 0xDC00 ≤ u && u < 0xE000

def unitPoint (u : Nat) : Point :=
  if h : 0xD800 ≤ u ∧ u < 0xE000 then .half ⟨u - 0xD800, by omega⟩ else .char (Char.ofNat u)

/-- The low surrogate escape at the front, if one is there. -/
def lowSurrogate? : List Char → Option (Nat × List Char)
  | '\\' :: 'u' :: s => (unit? s).bind fun (u, rest) =>
      if isLowSurrogate u then some (u, rest) else none
  | _ => none

/-- The code point of a `\u` escape whose digits stand at the front. Two escapes
that form a surrogate pair are one character. -/
def unicodeEscape? (s : List Char) : Option (Point × List Char) := do
  let (high, rest) ← unit? s
  if isHighSurrogate high then
    match lowSurrogate? rest with
    | some (low, rest) =>
        return (.char (Char.ofNat (0x10000 + (high - 0xD800) * 0x400 + (low - 0xDC00))), rest)
    | none => return (unitPoint high, rest)
  else return (unitPoint high, rest)

/-- The character that a one-letter escape stands for. -/
def letterEscape? (l : Char) : Option Char := if l = '/' then some '/' else Escape.ofLetter? l

/-- Read the rest of a string. `opening` is the text from its opening quote on,
where a missing end is reported. -/
def stringBody (opening : List Char) : Nat → Reads Points
  | 0, _ => .error (.malformed .unterminatedString opening)
  | _, [] => .error (.malformed .unterminatedString opening)
  | _, ['\\'] => .error (.malformed .unterminatedString opening)
  | fuel + 1, '\\' :: 'u' :: s =>
      match unicodeEscape? s with
      | none => .error (.malformed .invalidUnicodeEscape ('u' :: s))
      | some (p, rest) => do
          let (ps, rest) ← stringBody opening fuel rest
          return (p :: ps, rest)
  | fuel + 1, '\\' :: l :: s =>
      match letterEscape? l with
      | none => .error (.malformed .invalidEscape ('\\' :: l :: s))
      | some c => do
          let (ps, rest) ← stringBody opening fuel s
          return (.char c :: ps, rest)
  | fuel + 1, c :: s =>
      if c = '"' then .ok ([], s)
      else if c.toNat < 0x20 then .error (.malformed .controlCharacter (c :: s))
      else do
        let (ps, rest) ← stringBody opening fuel s
        return (.char c :: ps, rest)

def string (bound : Nat) (s : List Char) : Except Fault (Points × List Char) :=
  stringBody ('"' :: s) bound s

/-! ## Numbers -/

/-- The integer part at the front: a lone zero, or digits that start with none. -/
def integerPart? : List Char → Option (List Char × List Char)
  | '0' :: s => some (['0'], s)
  | c :: s =>
      if c.isDigit then some (c :: s.takeWhile Char.isDigit, s.dropWhile Char.isDigit) else none
  | [] => none

def fractionPart : List Char → List Char × List Char
  | '.' :: c :: s =>
      if c.isDigit then ('.' :: c :: s.takeWhile Char.isDigit, s.dropWhile Char.isDigit)
      else ([], '.' :: c :: s)
  | s => ([], s)

/-- The optional sign of an exponent. -/
def exponentSign : List Char → List Char × List Char
  | '+' :: s => (['+'], s)
  | '-' :: s => (['-'], s)
  | s => ([], s)

def exponentPart : List Char → List Char × List Char
  | [] => ([], [])
  | e :: s =>
      if e = 'e' ∨ e = 'E' then
        let (sign, digits) := exponentSign s
        match digits.takeWhile Char.isDigit with
        | [] => ([], e :: s)
        | ds => (e :: sign ++ ds, digits.dropWhile Char.isDigit)
      else ([], e :: s)

/-- Read a number whose sign has been taken off. `start` is the text with the
sign, where a missing number is reported. -/
def number (start : List Char) (negative : Bool) (s : List Char) :
    Except Fault (Document × List Char) :=
  match integerPart? s with
  | none => .error (.malformed .expectingValue start)
  | some (digits, rest) =>
      let (fraction, rest) := fractionPart rest
      let (exponent, rest) := exponentPart rest
      if fraction.isEmpty && exponent.isEmpty then
        if digitLimit < digits.length then .error (.longInteger digits.length)
        else
          let n : Int := decimalValue digits
          .ok (.int (if negative then -n else n), rest)
      else
        let sign := if negative then ['-'] else []
        .ok (.float (String.ofList (sign ++ digits ++ fraction ++ exponent)), rest)

/-! ## Values -/

/-- Read a value that is neither a string, an array nor an object. -/
def scalar (s : List Char) : Except Fault (Document × List Char) :=
  match s with
  | 'n' :: 'u' :: 'l' :: 'l' :: rest => .ok (.null, rest)
  | 't' :: 'r' :: 'u' :: 'e' :: rest => .ok (.bool true, rest)
  | 'f' :: 'a' :: 'l' :: 's' :: 'e' :: rest => .ok (.bool false, rest)
  | 'N' :: 'a' :: 'N' :: rest => .ok (.float "NaN", rest)
  | 'I' :: 'n' :: 'f' :: 'i' :: 'n' :: 'i' :: 't' :: 'y' :: rest =>
      .ok (.float "Infinity", rest)
  | '-' :: 'I' :: 'n' :: 'f' :: 'i' :: 'n' :: 'i' :: 't' :: 'y' :: rest =>
      .ok (.float "-Infinity", rest)
  | '-' :: rest => number s true rest
  | s => number s false s

/-- Read the elements of an array that are left, the first of which starts
here. `read` reads one element. -/
def elements (read : Reads Document) : Nat → Reads (List Document)
  | 0, s => .error (.malformed .expectingValue s)
  | fuel + 1, s => do
      let (v, rest) ← read s
      match skipBlanks rest with
      | ']' :: rest => return ([v], rest)
      | ',' :: rest => do
          let (vs, rest) ← elements read fuel (skipBlanks rest)
          return (v :: vs, rest)
      | rest => .error (.malformed .expectingComma rest)

def nameAndValue (bound : Nat) (read : Reads Document) : Reads (Points × Document)
  | '"' :: s => do
      let (name, rest) ← string bound s
      match skipBlanks rest with
      | ':' :: rest => do
          let (v, rest) ← read (skipBlanks rest)
          return ((name, v), rest)
      | rest => .error (.malformed .expectingColon rest)
  | s => .error (.malformed .expectingName s)

/-- Read the members of an object that are left and add them to those already
read. -/
def members (bound : Nat) (read : Reads Document) :
    Nat → List (Points × Document) → Reads (List (Points × Document))
  | 0, _, s => .error (.malformed .expectingName s)
  | fuel + 1, done, s => do
      let ((name, v), rest) ← nameAndValue bound read s
      let done := putMember name v done
      match skipBlanks rest with
      | '}' :: rest => return (done, rest)
      | ',' :: rest => members bound read fuel done (skipBlanks rest)
      | rest => .error (.malformed .expectingComma rest)

/-- Read a value. The first number is how many more arrays and objects may be
opened in one another. -/
def value (bound : Nat) : Nat → Reads Document
  | _, '"' :: s => do
      let (str, rest) ← string bound s
      return (.string str, rest)
  | 0, '[' :: _ => .error .tooDeep
  | 0, '{' :: _ => .error .tooDeep
  | depth + 1, '[' :: s =>
      match skipBlanks s with
      | ']' :: rest => .ok (.array [], rest)
      | s => do
          let (vs, rest) ← elements (value bound depth) bound s
          return (.array vs, rest)
  | depth + 1, '{' :: s =>
      match skipBlanks s with
      | '}' :: rest => .ok (.object [], rest)
      | s => do
          let (ms, rest) ← members bound (value bound depth) bound [] s
          return (.object ms, rest)
  | _, s => scalar s

/-- Read a whole text that holds one value and blanks around it. -/
def document : List Char → Except Fault Document
  | '\uFEFF' :: s => .error (.malformed .byteOrderMark ('\uFEFF' :: s))
  | s => do
      let (v, rest) ← value (s.length + 1) depthLimit (skipBlanks s)
      match skipBlanks rest with
      | [] => return v
      | rest => .error (.malformed .extraData rest)

end SampleSchema.Json.Reader

namespace SampleSchema.Json

def read (text : String) : Except Fault Document := Reader.document text.toList

end SampleSchema.Json
