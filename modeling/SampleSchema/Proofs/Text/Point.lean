import SampleSchema.Text.Point
/-!
Code points, their order, and the texts that are strings.

* `Point.code_injective`: a code point is known by its number, so that texts are ordered
  linearly;
* `Points.isString_iff`: a text without lone halves is the text of a string;
* `Points.shown_ofString`, `Points.ofString_shown`: a string is shown as it is.
-/

namespace SampleSchema.Text

namespace Point

/-- No character has the number of a half. -/
private theorem toNat_ne_half (c : Char) (n : Fin 0x800) : c.toNat ≠ 0xD800 + n := by
  have hvalid : c.toNat < 0xD800 ∨ 0xDFFF < c.toNat ∧ c.toNat < 0x110000 := c.valid
  omega

theorem code_injective {p q : Point} (h : p.code = q.code) : p = q := by
  cases p with
  | char c =>
    cases q with
    | char d => exact congrArg char (Char.toNat_inj.mp h)
    | half n => exact absurd h (toNat_ne_half c n)
  | half m =>
    cases q with
    | char d => exact absurd h.symm (toNat_ne_half d m)
    | half n => exact congrArg half (Fin.ext (Nat.add_left_cancel h))

instance : Std.IsLinearOrder Point := by
  apply Std.IsLinearOrder.of_le
  · exact ⟨fun _ _ hpq hqp => code_injective (Nat.le_antisymm hpq hqp)⟩
  · exact ⟨fun hpq hqr => Nat.le_trans hpq hqr⟩
  · exact ⟨fun p q => Nat.le_total p.code q.code⟩

instance : Std.LawfulOrderLT Point := ⟨fun _ _ => Nat.lt_iff_le_and_not_ge⟩

end Point

namespace Points

@[simp] theorem ofString_empty : ofString "" = [] := rfl

@[simp] theorem char_mem_ofString {c : Char} {s : String} :
    .char c ∈ ofString s ↔ c ∈ s.toList := by
  simp [ofString]

theorem isEmpty_eq_false {s : Points} (h : s ≠ "") : s.isEmpty = false := by simpa using h

theorem ofString_append (s t : String) : ofString (s ++ t) = ofString s ++ ofString t := by
  simp [ofString]

@[simp] theorem isString_nil : isString [] = true := rfl

@[simp] theorem isString_append (s t : Points) :
    (s ++ t).isString = (s.isString && t.isString) := List.all_append

@[simp] theorem isString_ofString (s : String) : (ofString s).isString = true := by
  simp [ofString, isString, Point.isHalf]

@[simp] theorem shown_ofString (s : String) : (ofString s).shown = s := by
  simp [ofString, shown, Function.comp_def, Point.shown]

@[simp] theorem ofString_inj {s t : String} : ofString s = ofString t ↔ s = t := by
  constructor
  · intro h
    rw [← shown_ofString s, h, shown_ofString]
  · rintro rfl
    rfl

/-- Without lone halves, a text is the string that it is shown as. -/
theorem ofString_shown {s : Points} (h : s.isString = true) : ofString s.shown = s := by
  have hchars : ∀ p ∈ s, Point.char p.shown = p := by
    intro p hp
    have hp := List.all_eq_true.mp h p hp
    cases p with
    | char c => rfl
    | half n => cases hp
  simpa [ofString, shown, Function.comp_def] using List.map_congr_left hchars

theorem isString_iff {s : Points} : s.isString = true ↔ ∃ t : String, s = ofString t :=
  ⟨fun h => ⟨s.shown, (ofString_shown h).symm⟩, by rintro ⟨t, rfl⟩; exact isString_ofString t⟩

/-- A text that is no string has a first half. -/
theorem exists_first_half {s : Points} (h : s.isString = false) :
    ∃ (front : String) (n : Fin 0x800) (back : Points), s = ofString front ++ .half n :: back := by
  induction s with
  | nil => cases h
  | cons p s ih =>
    cases p with
    | half n => exact ⟨"", n, s, rfl⟩
    | char c =>
      obtain ⟨front, n, back, rfl⟩ := ih h
      exact ⟨String.ofList (c :: front.toList), n, back, by simp [ofString]⟩

end Points
end SampleSchema.Text
