import SampleSchema.Java.Literal
import SampleSchema.Proofs.Text.Ascii
import SampleSchema.Proofs.Text.Point
/-!
Java string literals as a compiler reads them.

* `translate`: the first stage, in which Unicode escapes become characters;
* `readBody`: the second stage, in which a literal is read up to its quote;
* `translate_escape`, `readBody_flatMap`: the two stages give back what a literal
  was written for, whatever comes after it;
* `Unbroken`: text on one line, such as a literal before and after the first stage;
* `value?_quoted`: whatever a text is, its literal is one literal on one line, and the
  text is its value.
-/

namespace SampleSchema.Java.Literal

open Text

/-! ## Reading -/

/-- The character of four hexadecimal digits. Half a surrogate pair is none. -/
def unicode? (a b c d : Char) : Option Char := do
  let n := 4096 * (← Hex.value? a) + 256 * (← Hex.value? b) + 16 * (← Hex.value? c)
    + (← Hex.value? d)
  if n.isValidChar then some (Char.ofNat n) else none

mutual
/-- Put characters in place of Unicode escapes. A backslash before a `u` starts
one unless the number of backslashes just before it is `odd`. -/
def translate (odd : Bool) : Points → Option Points
  | [] => some []
  | p :: rest =>
      if p = '\\' ∧ odd = false ∧ rest.head? = some (.char 'u') then translateDigits rest
      else (translate (p == '\\' && !odd) rest).map (p :: ·)

/-- Read the digits of a Unicode escape, before which its `u` can be repeated. -/
def translateDigits : Points → Option Points
  | .char 'u' :: rest => translateDigits rest
  | .char a :: .char b :: .char c :: .char d :: rest => do
      let e ← unicode? a b c d
      let rest ← translate false rest
      return e :: rest
  | _ => none
end

/-- Read a literal after its opening quote. No line break stands in it, and of the
escapes those of one letter are read. -/
def readBody : Points → Option (Points × Points)
  | [] => none
  | .char '"' :: rest => some ([], rest)
  | .char '\n' :: _ => none
  | .char '\r' :: _ => none
  | .char '\\' :: .char l :: rest => do
      let c ← Escape.ofLetter? l
      let (value, after) ← readBody rest
      return (.char c :: value, after)
  | .char '\\' :: .half _ :: _ => none
  | p :: rest => do
      let (value, after) ← readBody rest
      return (p :: value, after)

/-- Read a literal and return what follows it. -/
def readLiteral : Points → Option (Points × Points)
  | .char '"' :: body => readBody body
  | _ => none

/-! ## The first stage -/

theorem translate_plain {p : Point} (h : p ≠ '\\') (rest : Points) :
    translate false (p :: rest) = (translate false rest).map (p :: ·) := by
  simp [translate, h, beq_eq_false_iff_ne.mpr h]

/-- A backslash and what follows it, other than the `u` of an escape, stay. -/
theorem translate_slash {l : Char} (h : l ≠ 'u') (rest : Points) :
    translate false ('\\' :: l :: rest) =
      (translate false rest).map ([.char '\\', .char l] ++ ·) := by
  simp [translate, h, Function.comp_def]

theorem translate_append {w : Points} (h : ('\\' : Point) ∉ w) (rest : Points) :
    translate false (w ++ rest) = (translate false rest).map (w ++ ·) := by
  induction w with
  | nil => simp
  | cons p w ih =>
    rw [List.mem_cons, not_or] at h
    rw [List.cons_append, translate_plain (Ne.symm h.1), ih h.2, Option.map_map]
    rfl

/-- The digits that a control character is written with give it back. -/
theorem unicode?_digits {c : Char} (h : c.toNat < 128) :
    ∃ a b d e, Text.Hex.digits 4 c.toNat = [a, b, d, e] ∧ a ≠ 'u' ∧
      unicode? a b d e = some c := by
  refine ⟨Nat.digitChar (c.toNat / 16 / 16 / 16 % 16), Nat.digitChar (c.toNat / 16 / 16 % 16),
    Nat.digitChar (c.toNat / 16 % 16), Nat.digitChar (c.toNat % 16), rfl, ?_⟩
  refine forall_ascii (P := fun c => Nat.digitChar (c.toNat / 16 / 16 / 16 % 16) ≠ 'u' ∧
    unicode? (Nat.digitChar (c.toNat / 16 / 16 / 16 % 16))
      (Nat.digitChar (c.toNat / 16 / 16 % 16)) (Nat.digitChar (c.toNat / 16 % 16))
      (Nat.digitChar (c.toNat % 16)) = some c) ?_ c h
  decide +kernel

private theorem translateDigits_cons {a b c d e : Char} (hu : a ≠ 'u')
    (he : unicode? a b c d = some e) (rest : Points) :
    translateDigits ('u' :: a :: b :: c :: d :: rest) =
      (translate false rest).map (.char e :: ·) := by
  rw [translateDigits, translateDigits]
  · rw [he]
    cases translate false rest <;> rfl
  · exact hu

private theorem translate_unicode {c : Char} (h : c.toNat < 128) (rest : Points) :
    translate false (('\\' :: 'u' :: Text.Hex.digits 4 c.toNat).map .char ++ rest) =
      (translate false rest).map (.char c :: ·) := by
  obtain ⟨a, b, d, e, hd, hu, hc⟩ := unicode?_digits h
  rw [hd, ← translateDigits_cons hu hc]
  simp [translate]

/-- What is left of a character of a literal after the first stage. -/
def translatedChar (c : Char) : List Char :=
  match Escape.letter? c with
  | some l => ['\\', l]
  | none => [c]

def translated : Point → Points
  | .char c => (translatedChar c).map .char
  | .half n => [.half n]

theorem letter?_eq_some {c l : Char} (h : Escape.letter? c = some l) :
    l ≠ 'u' ∧ l ≠ '\n' ∧ l ≠ '\r' := by
  unfold Escape.letter? at h
  split at h <;> cases h <;> decide

theorem ne_of_letter?_eq_none {c : Char} (h : Escape.letter? c = none) (d : Char)
    (hd : (Escape.letter? d).isSome = true) : c ≠ d := by
  rintro rfl
  rw [h] at hd
  cases hd

private theorem translate_escapePoint (p : Point) (rest : Points) :
    translate false (escapePoint p ++ rest) = (translate false rest).map (translated p ++ ·) := by
  cases p with
  | half n => exact translate_plain (fun h => Point.noConfusion h) rest
  | char c =>
    rw [escapePoint, translated, escapeChar, translatedChar]
    cases hl : Escape.letter? c with
    | some l => exact translate_slash (letter?_eq_some hl).1 rest
    | none =>
      dsimp only
      split
      · rename_i hc
        have hascii : c.toNat < 128 := by
          simp only [Bool.or_eq_true, decide_eq_true_eq, beq_iff_eq] at hc
          omega
        exact translate_unicode hascii rest
      · have hslash : c ≠ '\\' := ne_of_letter?_eq_none hl '\\' rfl
        exact translate_plain (fun h => hslash (Point.char.inj h)) rest

/-- The first stage turns each code point of a literal on its own, since each of
them is written with an even number of backslashes or as a Unicode escape. -/
theorem translate_escape (s rest : Points) :
    translate false (escape s ++ rest) =
      (translate false rest).map (s.flatMap translated ++ ·) := by
  unfold escape
  induction s with
  | nil => simp
  | cons p s ih =>
    rw [List.flatMap_cons, List.append_assoc, translate_escapePoint, ih, Option.map_map,
      List.flatMap_cons]
    congr 1
    funext text
    exact (List.append_assoc ..).symm

/-! ## The second stage -/

private theorem readBody_plain {p : Point} (h : ∀ c, p = .char c → Escape.letter? c = none)
    (rest : Points) : readBody (p :: rest) = (readBody rest).map fun r => (p :: r.1, r.2) := by
  have hne (d : Char) (hd : (Escape.letter? d).isSome = true) : p ≠ d :=
    fun hp => ne_of_letter?_eq_none (h d hp) d hd rfl
  rw [readBody]
  · cases readBody rest <;> rfl
  · exact hne '"' rfl
  · exact hne '\n' rfl
  · exact hne '\r' rfl
  · exact fun _ _ hp => absurd hp (hne '\\' rfl)
  · exact fun _ _ hp => absurd hp (hne '\\' rfl)

private theorem readBody_translated (p : Point) (rest : Points) :
    readBody (translated p ++ rest) = (readBody rest).map fun r => (p :: r.1, r.2) := by
  cases p with
  | half n => exact readBody_plain (fun _ h => Point.noConfusion h) rest
  | char c =>
    rw [translated, translatedChar]
    cases hl : Escape.letter? c with
    | some l =>
      change readBody ('\\' :: l :: rest) = _
      rw [readBody, Escape.ofLetter?_of_letter? hl]
      cases readBody rest <;> rfl
    | none => exact readBody_plain (fun d hd => Point.char.inj hd ▸ hl) rest

/-- The second stage reads a literal up to the quote after it. -/
theorem readBody_flatMap (s rest : Points) :
    readBody (s.flatMap translated ++ .char '"' :: rest) = some (s, rest) := by
  induction s with
  | nil => rw [List.flatMap_nil, List.nil_append, readBody]
  | cons p s ih => rw [List.flatMap_cons, List.append_assoc, readBody_translated, ih]; rfl

/-! ## Line breaks -/

/-- Text that stays on one line. -/
def Unbroken (text : Points) : Prop := ('\n' : Point) ∉ text ∧ ('\r' : Point) ∉ text

instance (text : Points) : Decidable (Unbroken text) :=
  inferInstanceAs (Decidable (_ ∧ _))

theorem Unbroken.append {front back : Points} (hf : Unbroken front) (hb : Unbroken back) :
    Unbroken (front ++ back) :=
  ⟨by simp [hf.1, hb.1], by simp [hf.2, hb.2]⟩

theorem unbroken_flatMap {piece : Point → Points} (h : ∀ p, Unbroken (piece p))
    (s : Points) : Unbroken (s.flatMap piece) := by
  induction s with
  | nil => exact ⟨by simp, by simp⟩
  | cons p s ih => exact (h p).append ih

theorem unbroken_letter {c l : Char} (h : Escape.letter? c = some l) :
    Unbroken ['\\', l] := by
  obtain ⟨_, hn, hr⟩ := letter?_eq_some h
  exact ⟨by simp [Ne.symm hn], by simp [Ne.symm hr]⟩

theorem unbroken_plain {c : Char} (h : Escape.letter? c = none) : Unbroken [.char c] :=
  ⟨by simpa using (ne_of_letter?_eq_none h '\n' rfl).symm,
    by simpa using (ne_of_letter?_eq_none h '\r' rfl).symm⟩

theorem unbroken_half (n : Fin 0x800) : Unbroken [.half n] := ⟨by simp, by simp⟩

theorem unbroken_translated (p : Point) : Unbroken (translated p) := by
  cases p with
  | half n => exact unbroken_half n
  | char c =>
    rw [translated, translatedChar]
    cases hl : Escape.letter? c with
    | some l => exact unbroken_letter hl
    | none => exact unbroken_plain hl

private theorem unbroken_digits (width n : Nat) :
    Unbroken ((Text.Hex.digits width n).map .char) := by
  have hdigit : ∀ k, k < 16 → Unbroken [.char (Nat.digitChar k)] := by decide
  induction width generalizing n with
  | zero => exact ⟨by simp [Text.Hex.digits], by simp [Text.Hex.digits]⟩
  | succ width ih =>
    rw [Text.Hex.digits, List.map_append]
    exact (ih (n / 16)).append (hdigit _ (Nat.mod_lt n (by decide)))

theorem unbroken_escapePoint (p : Point) : Unbroken (escapePoint p) := by
  cases p with
  | half n => exact unbroken_half n
  | char c =>
    rw [escapePoint, escapeChar]
    cases hl : Escape.letter? c with
    | some l => exact unbroken_letter hl
    | none =>
      dsimp only
      split
      · have hmark : Unbroken ['\\', 'u'] := by decide
        exact hmark.append (unbroken_digits 4 _)
      · exact unbroken_plain hl

/-! ## Values -/

def quoted (s : Points) : Points := "\"" ++ escape s ++ "\""

/-- The value of a text that is a literal and nothing else. -/
def value? (text : Points) : Option Points := do
  let translated ← translate false text
  let (value, after) ← readLiteral translated
  if after = [] then some value else none

private theorem unbroken_quoted (s : Points) : Unbroken (quoted s) := by
  have hquote : Unbroken "\"" := by decide
  exact (hquote.append (unbroken_flatMap unbroken_escapePoint s)).append hquote

/-- The two stages read a literal up to its end and leave what comes after it. -/
theorem readLiteral_quoted (s rest : Points) :
    (translate false (quoted s ++ rest)).bind readLiteral =
      (translate false rest).map fun after => (s, after) := by
  have hquote : ('"' : Point) ≠ '\\' := by decide
  have hread (after : Points) :
      readLiteral (.char '"' :: (s.flatMap translated ++ .char '"' :: after)) = some (s, after) :=
    readBody_flatMap s after
  have htext : quoted s ++ rest = .char '"' :: (escape s ++ .char '"' :: rest) := by
    simp [quoted, Points.ofString]
  rw [htext, translate_plain hquote, translate_escape, translate_plain hquote]
  cases translate false rest with
  | none => rfl
  | some after => exact hread after

/-- Every text is the value of its literal, whichever of its characters meet. The
literal stays on one line, it is one literal as a whole, and nothing that comes
after it changes how it is read. -/
theorem value?_quoted (s : Points) :
    Unbroken (quoted s) ∧ value? (quoted s) = some s ∧
      ∀ rest, (translate false (quoted s ++ rest)).bind readLiteral =
        (translate false rest).map fun after => (s, after) := by
  refine ⟨unbroken_quoted s, ?_, readLiteral_quoted s⟩
  have hread := readLiteral_quoted s []
  rw [List.append_nil, translate, Option.map_some] at hread
  obtain ⟨text, htext, hliteral⟩ := Option.bind_eq_some_iff.mp hread
  simp only [value?, htext, hliteral, Option.bind_eq_bind, Option.bind_some, ↓reduceIte]

example : quoted "\\u\"\r\x01" = "\"\\\\u\\\"\\r\\u0001\"" := by decide

end SampleSchema.Java.Literal
