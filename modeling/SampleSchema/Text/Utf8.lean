import SampleSchema.Text.Point
/-!
UTF-8 text. Decoding is strict: it stops at the first byte that no encoded text
can have there and tells which bytes are at fault. Encoding is strict, too: a half of
a surrogate pair has no bytes.
-/

namespace SampleSchema.Text.Utf8

inductive Reason where
  /-- No character starts with this byte. -/
  | invalidStart
  /-- A character was begun and goes on with a byte that cannot follow. -/
  | invalidContinuation
  /-- The bytes end within a character. -/
  | unexpectedEnd
  deriving DecidableEq, Repr

def Reason.message : Reason → String
  | invalidStart => "invalid start byte"
  | invalidContinuation => "invalid continuation byte"
  | unexpectedEnd => "unexpected end of data"

/-- Bytes that could not be decoded: where they start, how many they are and the
first of them. -/
structure Fault where
  start : Nat
  count : Nat
  first : UInt8
  reason : Reason
  deriving DecidableEq, Repr

def Fault.message (f : Fault) : String :=
  let place := toString f.start
  let reason := ": " ++ f.reason.message
  if f.count = 1 then
    let byte := String.ofList (Hex.digits 2 f.first.toNat)
    "'utf-8' codec can't decode byte 0x" ++ byte ++ " in position " ++ place ++ reason
  else
    "'utf-8' codec can't decode bytes in position " ++ place ++ "-"
      ++ toString (f.start + f.count - 1) ++ reason

/-- A character that has been begun. -/
structure Begun where
  start : Nat
  first : UInt8
  /-- The bytes read of it. -/
  seen : Nat
  /-- The bytes it still needs, less one. -/
  missing : Nat
  /-- The bits read of it. -/
  bits : Nat
  /-- The range of its next byte. -/
  low : Nat
  high : Nat
  deriving DecidableEq, Repr

/-- The character that a byte of 128 or more begins. The first continuation byte
of some characters has a narrower range, which rules out overlong forms,
surrogates and code points that are too large. -/
def begin? (position : Nat) (b : UInt8) : Option Begun :=
  let n := b.toNat
  let one (missing bits low high : Nat) : Option Begun :=
    some { start := position, first := b, seen := 1, missing, bits, low, high }
  if 0xC2 ≤ n ∧ n ≤ 0xDF then one 0 (n - 0xC0) 0x80 0xBF
  else if n = 0xE0 then one 1 0 0xA0 0xBF
  else if n = 0xED then one 1 0xD 0x80 0x9F
  else if 0xE1 ≤ n ∧ n ≤ 0xEF then one 1 (n - 0xE0) 0x80 0xBF
  else if n = 0xF0 then one 2 0 0x90 0xBF
  else if 0xF1 ≤ n ∧ n ≤ 0xF3 then one 2 (n - 0xF0) 0x80 0xBF
  else if n = 0xF4 then one 2 4 0x80 0x8F
  else none

/-- The fault of a character that cannot be completed. -/
def Begun.fault (p : Begun) (reason : Reason) : Fault := ⟨p.start, p.seen, p.first, reason⟩

/-- Decode bytes from a position on, in the middle of a character if one has
been begun. -/
def decodeFrom (position : Nat) : Option Begun → List UInt8 → Except Fault (List Char)
  | none, [] => .ok []
  | some p, [] => .error (p.fault .unexpectedEnd)
  | none, b :: rest =>
      if b.toNat < 0x80 then
        (decodeFrom (position + 1) none rest).map (Char.ofNat b.toNat :: ·)
      else match begin? position b with
        | some p => decodeFrom (position + 1) (some p) rest
        | none => .error ⟨position, 1, b, .invalidStart⟩
  | some p, b :: rest =>
      if p.low ≤ b.toNat ∧ b.toNat ≤ p.high then
        let bits := p.bits * 0x40 + (b.toNat - 0x80)
        match p.missing with
        | 0 => (decodeFrom (position + 1) none rest).map (Char.ofNat bits :: ·)
        | missing + 1 =>
            decodeFrom (position + 1)
              (some { p with seen := p.seen + 1, missing, bits, low := 0x80, high := 0xBF }) rest
      else .error (p.fault .invalidContinuation)

def decode (bytes : List UInt8) : Except Fault (List Char) := decodeFrom 0 none bytes

def encode (s : List Char) : List UInt8 := s.flatMap String.utf8EncodeChar

/-- Halves that stand side by side and cannot be encoded: where they start, how many
they are and the first of them. -/
structure EncodeFault where
  start : Nat
  count : Nat
  first : Fin 0x800
  deriving DecidableEq, Repr

def EncodeFault.message (f : EncodeFault) : String :=
  let place := toString f.start
  if f.count = 1 then
    "'utf-8' codec can't encode character '" ++ Points.escaped [.half f.first]
      ++ "' in position " ++ place ++ ": surrogates not allowed"
  else
    "'utf-8' codec can't encode characters in position " ++ place ++ "-"
      ++ toString (f.start + f.count - 1) ++ ": surrogates not allowed"

/-- Encode code points from a position on. -/
def encodeFrom (position : Nat) : Points → Except EncodeFault (List UInt8)
  | [] => .ok []
  | .char c :: rest => (encodeFrom (position + 1) rest).map (String.utf8EncodeChar c ++ ·)
  | .half n :: rest => .error ⟨position, (rest.takeWhile Point.isHalf).length + 1, n⟩

def encodePoints (s : Points) : Except EncodeFault (List UInt8) := encodeFrom 0 s

end SampleSchema.Text.Utf8
