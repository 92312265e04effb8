import SampleSchema.Text.Casing
/-!
Case mappings of ASCII characters and words.

* `forall_ascii`: what holds of the first 128 characters holds of every ASCII
  character;
* `toUpper_ascii`, `toLower_ascii`: a mapping gives one character;
* `capitalize_ascii`: a word is capitalized character by character.
-/

namespace SampleSchema.Text

theorem forall_ascii {P : Char → Prop} (h : ∀ n, n < 128 → P (Char.ofNat n)) (c : Char)
    (hc : c.toNat < 128) : P c := by
  have hn := h c.toNat hc
  rwa [Char.ofNat_toNat] at hn

/-- Letters and digits are ASCII. -/
theorem toNat_lt_of_isAlphanum {c : Char} (h : c.isAlphanum = true) : c.toNat < 128 := by
  change (decide ('A'.val ≤ c.val ∧ c.val ≤ 'Z'.val) ||
    (decide ('a'.val ≤ c.val) && decide (c.val ≤ 'z'.val)) ||
    (decide ('0'.val ≤ c.val) && decide (c.val ≤ '9'.val))) = true at h
  simp only [Bool.or_eq_true, Bool.and_eq_true, decide_eq_true_eq, UInt32.le_iff_toNat_le] at h
  have hc : c.toNat = c.val.toNat := rfl
  have hZ : 'Z'.val.toNat = 90 := rfl
  have hz : 'z'.val.toNat = 122 := rfl
  have h9 : '9'.val.toNat = 57 := rfl
  omega

theorem toUpper_ascii {c : Char} (h : c.toNat < 128) : toUpper c = [c.toUpper] := by
  simp [toUpper, h]

theorem toLower_ascii {c : Char} (h : c.toNat < 128) : toLower c = [c.toLower] := by
  simp [toLower, h]

private theorem toTitle_ascii {c : Char} (h : c.toNat < 128) : toTitle c = [c.toUpper] := by
  simp [toTitle, h]

/-- Of the ranges of upper case one lies within ASCII. -/
theorem isUpper_of_ascii {c : Char} (h : c.toNat < 128) (hu : isUpper c = true) :
    c.isUpper = true := by
  have hranges : ∀ r ∈ CaseTable.upperRanges, r = (0x41, 0x5A) ∨ 128 ≤ r.1 := by decide +kernel
  obtain ⟨r, hr, hc⟩ := List.any_eq_true.mp hu
  simp only [Bool.and_eq_true, decide_eq_true_eq] at hc
  rcases hranges r hr with rfl | hr
  · change decide ('A'.val ≤ c.val ∧ c.val ≤ 'Z'.val) = true
    rw [decide_eq_true_eq, UInt32.le_iff_toNat_le, UInt32.le_iff_toNat_le]
    exact hc
  · omega

/-- No ASCII character is a sigma. -/
theorem lowerRest_ascii (before : List Char) {w : List Char} (h : ∀ c ∈ w, c.toNat < 128) :
    lowerRest before w = w.map Char.toLower := by
  induction w generalizing before with
  | nil => rfl
  | cons c w ih =>
    have hc := h c (List.mem_cons_self ..)
    have hsigma : c ≠ 'Σ' := by
      rintro rfl
      exact absurd hc (by decide)
    rw [lowerRest, if_neg hsigma, toLower_ascii hc, ih (c :: before) fun d hd =>
      h d (List.mem_cons_of_mem _ hd)]
    rfl

theorem capitalize_ascii {c : Char} {w : List Char} (h : ∀ d ∈ c :: w, d.toNat < 128) :
    capitalize (c :: w) = c.toUpper :: w.map Char.toLower := by
  rw [capitalize, toTitle_ascii (h c (List.mem_cons_self ..)),
    lowerRest_ascii [c] fun d hd => h d (List.mem_cons_of_mem _ hd)]
  rfl

end SampleSchema.Text
