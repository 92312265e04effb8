import SampleSchema.Java.Identifier
import SampleSchema.Proofs.Text.Ascii
/-!
Words that can be Java names.

* `ValidName`: the whole word has the form of an identifier and is not reserved;
* `validName_of_isIdentifier`: a word without line feeds that passes the test is
  valid;
* `validName_append`: what follows a fixed beginning of a valid name;
* `Spelled`: the grammar of identifiers, told from the ranges of its characters;
* `isIdentifier_iff`: which words pass the test, some of them with a line feed at
  their end (`final_break_accepted`).
-/

namespace SampleSchema.Java

structure ValidName (word : String) : Prop where
  isName : isName word.toList = true
  not_reserved : isReserved word = false

instance (word : String) : Decidable (ValidName word) :=
  decidable_of_iff (isName word.toList = true ∧ isReserved word = false)
    ⟨fun h => ⟨h.1, h.2⟩, fun h => ⟨h.1, h.2⟩⟩

/-! ## Characters -/

private theorem isNamePart_of_isNameStart {c : Char} (h : isNameStart c = true) :
    isNamePart c = true := by
  simp only [isNameStart, Bool.or_eq_true] at h
  rcases h with (h | h) | h <;> simp [isNamePart, Char.isAlphanum, h]

theorem toNat_lt_of_isNamePart {c : Char} (h : isNamePart c = true) : c.toNat < 128 := by
  simp only [isNamePart, Bool.or_eq_true, beq_iff_eq] at h
  rcases h with (h | rfl) | rfl
  · exact Text.toNat_lt_of_isAlphanum h
  · decide
  · decide

theorem isName_cons_iff {c : Char} {rest : List Char} :
    isName (c :: rest) = true ↔ isNameStart c = true ∧ ∀ d ∈ rest, isNamePart d = true := by
  simp [isName]

theorem isNamePart_of_mem {w : List Char} (h : isName w = true) {c : Char} (hc : c ∈ w) :
    isNamePart c = true := by
  cases w with
  | nil => cases hc
  | cons first rest =>
    obtain ⟨hfirst, hrest⟩ := isName_cons_iff.mp h
    rcases List.mem_cons.mp hc with rfl | hc
    · exact isNamePart_of_isNameStart hfirst
    · exact hrest c hc

private theorem isName_append {front back : List Char} (h : isName front = true)
    (hback : ∀ c ∈ back, isNamePart c = true) : isName (front ++ back) = true := by
  cases front with
  | nil => cases h
  | cons first rest =>
    obtain ⟨hfirst, hrest⟩ := isName_cons_iff.mp h
    refine isName_cons_iff.mpr ⟨hfirst, ?_⟩
    intro c hc
    rcases List.mem_append.mp hc with hc | hc
    · exact hrest c hc
    · exact hback c hc

/-! ## Words -/

private theorem dropFinalBreak_eq_self {w : List Char} (h : '\n' ∉ w) : dropFinalBreak w = w := by
  rw [dropFinalBreak, if_neg]
  intro hl
  exact h (List.mem_of_getLast? hl)

theorem validName_of_isIdentifier {word : String} (h : isIdentifier word = true)
    (hbreak : '\n' ∉ word.toList) : ValidName word := by
  simp only [isIdentifier, dropFinalBreak_eq_self hbreak, Bool.and_eq_true,
    Bool.not_eq_true'] at h
  exact ⟨h.1, h.2⟩

/-- A beginning with which no reserved word goes on makes every word of name
characters a valid name. -/
theorem validName_append {front back : String} (hfront : isName front.toList = true)
    (hreserved : ∀ word ∈ reservedWords, front.toList <+: word.toList → word = front)
    (hback : ∀ c ∈ back.toList, isNamePart c = true) (hne : back ≠ "") :
    ValidName (front ++ back) := by
  constructor
  · rw [String.toList_append]
    exact isName_append hfront hback
  · rw [isReserved, ← Bool.not_eq_true, List.contains_iff_mem]
    intro hmem
    have he := hreserved _ hmem (by simp)
    simp at he
    exact hne he

/-! ## The test -/

/-- The letters from `A` to `Z` and from `a` to `z`, the underscore and the dollar sign. -/
def StartChar (c : Char) : Prop :=
  'A' ≤ c ∧ c ≤ 'Z' ∨ 'a' ≤ c ∧ c ≤ 'z' ∨ c = '_' ∨ c = '$'

/-- A character to start with, or a digit from `0` to `9`. -/
def PartChar (c : Char) : Prop := StartChar c ∨ '0' ≤ c ∧ c ≤ '9'

/-- The words of the grammar of identifiers. -/
inductive Spelled : List Char → Prop
  | word {first : Char} {rest : List Char} (start : StartChar first)
      (part : ∀ c ∈ rest, PartChar c) : Spelled (first :: rest)

theorem isNameStart_iff (c : Char) : isNameStart c = true ↔ StartChar c := by
  change (decide ('A' ≤ c ∧ c ≤ 'Z') || (decide ('a' ≤ c) && decide (c ≤ 'z')) || c == '_' ||
    c == '$') = true ↔ StartChar c
  simp [StartChar, or_assoc]

private theorem isNamePart_iff (c : Char) : isNamePart c = true ↔ PartChar c := by
  have hdigit : c.isDigit = true ↔ '0' ≤ c ∧ c ≤ '9' := by
    change (decide ('0' ≤ c) && decide (c ≤ '9')) = true ↔ _
    simp
  rw [PartChar, ← isNameStart_iff, ← hdigit]
  simp only [isNamePart, isNameStart, Char.isAlphanum, Bool.or_eq_true]
  exact (or_congr_left or_right_comm).trans or_right_comm

theorem isName_iff_spelled (w : List Char) : isName w = true ↔ Spelled w := by
  cases w with
  | nil => exact iff_of_false (by simp [isName]) nofun
  | cons first rest =>
    simp only [isName_cons_iff, isNameStart_iff, isNamePart_iff]
    constructor
    · rintro ⟨hfirst, hrest⟩
      exact .word hfirst hrest
    · rintro (⟨hfirst, hrest⟩)
      exact ⟨hfirst, hrest⟩

theorem Spelled.no_break {w : List Char} (h : Spelled w) : '\n' ∉ w := by
  intro hm
  have hpart := isNamePart_of_mem ((isName_iff_spelled w).mpr h) hm
  revert hpart
  decide

private theorem dropFinalBreak_concat (w : List Char) : dropFinalBreak (w ++ ['\n']) = w := by
  simp [dropFinalBreak]

/-- A line feed at the end hides a reserved word from the test. -/
theorem not_reserved_break (name : String) : isReserved (name ++ "\n") = false := by
  rw [isReserved, ← Bool.not_eq_true, List.contains_iff_mem]
  intro hm
  have hwords : ∀ word ∈ reservedWords, '\n' ∉ word.toList := by decide +kernel
  exact hwords _ hm (by simp)

private theorem isIdentifier_break_iff (name : String) :
    isIdentifier (name ++ "\n") = true ↔ Spelled name.toList := by
  have hdrop : dropFinalBreak (name ++ "\n").toList = name.toList := by
    rw [String.toList_append]
    exact dropFinalBreak_concat name.toList
  rw [isIdentifier, hdrop, not_reserved_break, Bool.not_false, Bool.and_true, isName_iff_spelled]

private theorem isIdentifier_of_no_final_break {word : String}
    (h : ∀ name : String, word ≠ name ++ "\n") :
    isIdentifier word = true ↔ Spelled word.toList ∧ word ∉ reservedWords := by
  have hlast : word.toList.getLast? ≠ some '\n' := by
    intro hl
    obtain ⟨w, hw⟩ := List.getLast?_eq_some_iff.mp hl
    apply h (String.ofList w)
    rw [← String.toList_inj, hw]
    simp
  rw [isIdentifier, dropFinalBreak, if_neg hlast, Bool.and_eq_true, isName_iff_spelled, isReserved,
    Bool.not_eq_true', ← Bool.not_eq_true, List.contains_iff_mem]

/-- The test accepts the words of the grammar that are not reserved, and besides
them every word of the grammar with a line feed behind it. -/
theorem isIdentifier_iff (word : String) :
    isIdentifier word = true ↔
      (Spelled word.toList ∧ word ∉ reservedWords) ∨
      ∃ name, word = name ++ "\n" ∧ Spelled name.toList := by
  by_cases h : ∃ name : String, word = name ++ "\n"
  · obtain ⟨name, rfl⟩ := h
    have hnot : ¬ Spelled (name ++ "\n").toList := fun hs => hs.no_break (by simp)
    rw [isIdentifier_break_iff]
    constructor
    · intro hs
      exact Or.inr ⟨name, rfl, hs⟩
    · rintro (⟨hs, _⟩ | ⟨other, he, hs⟩)
      · exact absurd hs hnot
      · rwa [(String.append_left_inj "\n").mp he]
  · rw [isIdentifier_of_no_final_break (not_exists.mp h), or_iff_left]
    rintro ⟨name, he, _⟩
    exact h ⟨name, he⟩

/-- A line feed at the end is passed over, also behind a reserved word. -/
theorem final_break_accepted :
    isIdentifier "a\n" = true ∧ ¬ (Spelled "a\n".toList ∧ "a\n" ∉ reservedWords) ∧
    isIdentifier "class\n" = true ∧ isIdentifier "class" = false := by
  have hnot : ¬ Spelled "a\n".toList := fun hs => hs.no_break (by decide)
  exact ⟨by decide, fun h => hnot h.1, by decide, by decide⟩

end SampleSchema.Java
