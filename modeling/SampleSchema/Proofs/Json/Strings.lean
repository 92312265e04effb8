import SampleSchema.Json.Printer
import SampleSchema.Json.Reader
import SampleSchema.Proofs.Java.Literal
import SampleSchema.Proofs.Text.Utf8
/-!
Printed strings are read back.

* `unit?_digits`: a 16-bit unit is read from its four digits;
* `unicodeEscape?_unit`, `unicodeEscape?_pair`: so is a character from the escape
  of its unit, or from those of its surrogate pair;
* `stringBody_flatMap`: a string is read up to its closing quote, whatever comes
  after it;
* `Portable`, `portable_string`: no other characters than those of ASCII are printed.
-/

namespace SampleSchema.Json

open Text

namespace Reader

open Printer

/-! ## Units -/

private theorem value?_digitChar {d : Nat} (h : d < 16) :
    Hex.value? (Nat.digitChar d) = some d := by
  have hall : ∀ d, d < 16 → Hex.value? (Nat.digitChar d) = some d := by decide
  exact hall d h

theorem unit?_digits {u : Nat} (h : u < 0x10000) (next : Char) (rest : List Char) :
    unit? (Hex.digits 4 u ++ next :: rest) = some (u, next :: rest) := by
  have hdigits : Hex.digits 4 u = [Nat.digitChar (u / 16 / 16 / 16 % 16),
      Nat.digitChar (u / 16 / 16 % 16), Nat.digitChar (u / 16 % 16), Nat.digitChar (u % 16)] := rfl
  have hdigit : ∀ n, Hex.value? (Nat.digitChar (n % 16)) = some (n % 16) :=
    fun n => value?_digitChar (Nat.mod_lt n (by decide))
  simp only [hdigits, List.cons_append, List.nil_append, unit?, hdigit, Option.bind_eq_bind,
    Option.bind_some, Option.pure_def, Option.some.injEq, Prod.mk.injEq, and_true]
  omega

private theorem unitPoint_toNat (c : Char) : unitPoint c.toNat = .char c := by
  have hc := Utf8.toNat_cases c
  rw [unitPoint, dif_neg (by omega), Char.ofNat_toNat]

theorem unicodeEscape?_unit {c : Char} (h : c.toNat < 0x10000) (next : Char)
    (rest : List Char) :
    unicodeEscape? (Hex.digits 4 c.toNat ++ next :: rest) = some (.char c, next :: rest) := by
  have hhigh : isHighSurrogate c.toNat = false := by
    have := Utf8.toNat_cases c
    simp [isHighSurrogate]
    omega
  simp [unicodeEscape?, unit?_digits h, hhigh, unitPoint_toNat]

/-- The escapes of a surrogate pair, up to the `u` of the first, are one character. -/
theorem unicodeEscape?_surrogates {high low : Nat} (hhigh : isHighSurrogate high = true)
    (hlow : isLowSurrogate low = true) (next : Char) (rest : List Char) :
    unicodeEscape? (Hex.digits 4 high ++ (unitEscape low ++ next :: rest)) =
      some (.char (Char.ofNat (0x10000 + (high - 0xD800) * 0x400 + (low - 0xDC00))),
        next :: rest) := by
  have hh : high < 0x10000 := by
    simp [isHighSurrogate] at hhigh
    omega
  have hl : low < 0x10000 := by
    simp [isLowSurrogate] at hlow
    omega
  have hsecond : lowSurrogate? (unitEscape low ++ next :: rest) = some (low, next :: rest) := by
    simp [unitEscape, lowSurrogate?, unit?_digits hl, hlow]
  have hfirst : unit? (Hex.digits 4 high ++ (unitEscape low ++ next :: rest)) =
      some (high, unitEscape low ++ next :: rest) := unit?_digits hh _ _
  simp [unicodeEscape?, hfirst, hhigh, hsecond]

theorem unicodeEscape?_pair {c : Char} (h : 0x10000 ≤ c.toNat) (next : Char)
    (rest : List Char) :
    unicodeEscape? (Hex.digits 4 (0xD800 + (c.toNat - 0x10000) / 0x400) ++
        (unitEscape (0xDC00 + (c.toNat - 0x10000) % 0x400) ++ next :: rest)) =
      some (.char c, next :: rest) := by
  have hc := Utf8.toNat_cases c
  rw [unicodeEscape?_surrogates (by simp [isHighSurrogate]; omega)
    (by simp [isLowSurrogate]; omega)]
  have hjoined : 0x10000 + (0xD800 + (c.toNat - 0x10000) / 0x400 - 0xD800) * 0x400 +
      (0xDC00 + (c.toNat - 0x10000) % 0x400 - 0xDC00) = c.toNat := by omega
  rw [hjoined, Char.ofNat_toNat]

/-! ## Strings -/

private theorem stringBody_letter {c l : Char} (h : Escape.letter? c = some l) (opening : List Char)
    (fuel : Nat) (rest : List Char) :
    stringBody opening (fuel + 1) ('\\' :: l :: rest) =
      (stringBody opening fuel rest).map fun r => (.char c :: r.1, r.2) := by
  have hletter : letterEscape? l = some c ∧ l ≠ 'u' := by
    unfold Escape.letter? at h
    split at h <;> cases h <;> exact ⟨rfl, by decide⟩
  rw [stringBody, hletter.1]
  · cases stringBody opening fuel rest <;> rfl
  · exact hletter.2

private theorem stringBody_plain {c : Char} (h : Escape.letter? c = none) (hc : 0x20 ≤ c.toNat)
    (opening : List Char) (fuel : Nat) (rest : List Char) :
    stringBody opening (fuel + 1) (c :: rest) =
      (stringBody opening fuel rest).map fun r => (.char c :: r.1, r.2) := by
  have hne := Java.Literal.ne_of_letter?_eq_none h
  rw [stringBody, if_neg (hne '"' rfl), if_neg (Nat.not_lt.mpr hc)]
  · cases stringBody opening fuel rest <;> rfl
  · exact fun hslash _ => hne '\\' rfl hslash
  · exact fun _ hslash _ => hne '\\' rfl hslash
  · exact fun _ _ hslash _ => hne '\\' rfl hslash

private theorem stringBody_unicode {p : Point} {digits rest after : List Char}
    (h : unicodeEscape? (digits ++ after) = some (p, rest)) (opening : List Char)
    (fuel : Nat) :
    stringBody opening (fuel + 1) ('\\' :: 'u' :: (digits ++ after)) =
      (stringBody opening fuel rest).map fun r => (p :: r.1, r.2) := by
  rw [stringBody, h]
  dsimp only
  cases stringBody opening fuel rest <;> rfl

/-- A character takes one turn, whichever of its forms it is printed in. Something
has to follow: the digits of an escape are not read at the end of a text. -/
theorem stringBody_escapeChar (c : Char) (opening : List Char) (fuel : Nat) (next : Char)
    (rest : List Char) :
    stringBody opening (fuel + 1) (escapeChar c ++ next :: rest) =
      (stringBody opening fuel (next :: rest)).map fun r => (.char c :: r.1, r.2) := by
  unfold escapeChar
  cases hl : Escape.letter? c with
  | some l => exact stringBody_letter hl opening fuel (next :: rest)
  | none =>
    dsimp only
    split
    · rename_i hc
      exact stringBody_plain hl hc.1 opening fuel (next :: rest)
    · split
      · rename_i hc
        exact stringBody_unicode (unicodeEscape?_unit hc next rest) opening fuel
      · rename_i hc
        rw [unitEscape, List.append_assoc, List.cons_append, List.cons_append]
        exact stringBody_unicode (unicodeEscape?_pair (Nat.not_lt.mp hc) next rest) opening fuel

theorem stringBody_flatMap {s : List Char} {fuel : Nat} (h : s.length < fuel)
    (opening rest : List Char) :
    stringBody opening fuel (s.flatMap escapeChar ++ '"' :: rest) = .ok (s.map .char, rest) := by
  induction s generalizing fuel with
  | nil =>
    obtain ⟨fuel, rfl⟩ := Nat.exists_eq_succ_of_ne_zero (Nat.ne_of_gt h)
    rfl
  | cons c s ih =>
    obtain ⟨fuel, rfl⟩ := Nat.exists_eq_succ_of_ne_zero (Nat.ne_zero_of_lt h)
    have hs := ih (Nat.lt_of_succ_lt_succ h)
    obtain ⟨next, later, hnext⟩ : ∃ next later,
        s.flatMap escapeChar ++ '"' :: rest = next :: later :=
      List.exists_cons_of_ne_nil (by simp)
    rw [List.flatMap_cons, List.append_assoc, hnext, stringBody_escapeChar, ← hnext, hs]
    rfl

private theorem length_le_flatMap (s : List Char) : s.length ≤ (s.flatMap escapeChar).length := by
  have hpositive (c : Char) : 0 < (escapeChar c).length := by
    unfold escapeChar unitEscape
    repeat' split
    all_goals simp
  induction s with
  | nil => exact Nat.zero_le _
  | cons c s ih =>
    have := hpositive c
    rw [List.flatMap_cons, List.length_append, List.length_cons]
    omega

private theorem flatMap_ofString (s : String) :
    (Points.ofString s).flatMap escapePoint = s.toList.flatMap escapeChar := by
  rw [Points.ofString, List.flatMap_map]
  rfl

/-- A string without lone halves is read up to its closing quote. -/
theorem string_print {s : Points} (hs : s.isString = true) {bound : Nat}
    (h : (Printer.string s).length ≤ bound) (rest : List Char) :
    Reader.string bound (s.flatMap escapePoint ++ '"' :: rest) = .ok (s, rest) := by
  obtain ⟨s, rfl⟩ := Points.isString_iff.mp hs
  have hlength : s.toList.length < bound := by
    have := length_le_flatMap s.toList
    simp only [Printer.string, flatMap_ofString, List.length_cons, List.length_append] at h
    omega
  rw [flatMap_ofString, Reader.string, stringBody_flatMap hlength]
  rfl

end Reader

namespace Printer

/-! ## Characters -/

/-- ASCII characters without carriage returns, which every text file keeps. -/
def Portable (text : List Char) : Prop := ∀ c ∈ text, c.toNat < 128 ∧ c ≠ '\r'

instance (text : List Char) : Decidable (Portable text) :=
  List.decidableBAll (fun c : Char => c.toNat < 128 ∧ c ≠ '\r') text

theorem Portable.append {front back : List Char} (hf : Portable front) (hb : Portable back) :
    Portable (front ++ back) := List.forall_mem_append.mpr ⟨hf, hb⟩

theorem Portable.cons {c : Char} {rest : List Char} (hc : c.toNat < 128 ∧ c ≠ '\r')
    (h : Portable rest) : Portable (c :: rest) := List.forall_mem_cons.mpr ⟨hc, h⟩

private theorem portable_digits (width n : Nat) : Portable (Hex.digits width n) := by
  have hdigit : ∀ k, k < 16 → Portable [Nat.digitChar k] := by decide
  induction width generalizing n with
  | zero => exact List.forall_mem_nil _
  | succ width ih => exact (ih (n / 16)).append (hdigit _ (Nat.mod_lt n (by decide)))

theorem portable_unitEscape (u : Nat) : Portable (unitEscape u) :=
  Portable.cons (by decide) (Portable.cons (by decide) (portable_digits 4 u))

private theorem portable_escapeChar (c : Char) : Portable (escapeChar c) := by
  unfold escapeChar
  cases hl : Escape.letter? c with
  | some l =>
    have hletter : l.toNat < 128 ∧ l ≠ '\r' := by
      unfold Escape.letter? at hl
      split at hl <;> cases hl <;> decide
    exact Portable.cons (by decide) (Portable.cons hletter (List.forall_mem_nil _))
  | none =>
    dsimp only
    split
    · rename_i hc
      have hr : c ≠ '\r' := Java.Literal.ne_of_letter?_eq_none hl '\r' rfl
      exact Portable.cons ⟨by omega, hr⟩ (List.forall_mem_nil _)
    · split
      · exact portable_unitEscape _
      · exact (portable_unitEscape _).append (portable_unitEscape _)

private theorem portable_escapePoint (p : Point) : Portable (escapePoint p) := by
  cases p with
  | char c => exact portable_escapeChar c
  | half n => exact portable_unitEscape _

theorem portable_string (s : Points) : Portable (string s) := by
  refine Portable.cons (by decide) (Portable.append ?_ (by decide))
  exact List.forall_mem_flatMap.mpr fun p _ => portable_escapePoint p

end Printer
end SampleSchema.Json
