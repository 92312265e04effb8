import SampleSchema.Java.Naming
import SampleSchema.Proofs.Java.Identifier
/-!
The characters of Java class names.

* `isClassPart`: ASCII letters, digits and the underscore;
* `mem_pascalWord`: Pascal case makes words of these of such words;
* `mem_className`: they are all that a class name holds, whatever it is made of;
* `validName_className`, `classForm_className`: a class name can be used as a name, and
  starts with a letter or an underscore.
-/

namespace SampleSchema.Java

open Naming Schema
open Text (Points)

def isClassPart (c : Char) : Bool := c.isAlphanum || c == '_'

theorem toNat_lt_of_isClassPart {c : Char} (h : isClassPart c = true) : c.toNat < 128 := by
  simp only [isClassPart, Bool.or_eq_true, beq_iff_eq] at h
  rcases h with h | rfl
  · exact Text.toNat_lt_of_isAlphanum h
  · decide

theorem isClassPart_case {c : Char} (h : isClassPart c = true) :
    isClassPart c.toUpper = true ∧ isClassPart c.toLower = true :=
  Text.forall_ascii (P := fun c => isClassPart c = true →
    isClassPart c.toUpper = true ∧ isClassPart c.toLower = true) (by decide +kernel) c
    (toNat_lt_of_isClassPart h) h

/-! ## Pascal case -/

private theorem splitAll_of_not_mem {separator : Char} {s : List Char} (h : separator ∉ s) :
    splitAll separator s = [s] := by
  induction s with
  | nil => rfl
  | cons c rest ih =>
    rw [List.mem_cons, not_or] at h
    rw [splitAll, ih h.2]
    exact if_neg (Ne.symm h.1)

private theorem mem_of_mem_splitAll {separator : Char} {s word : List Char}
    (h : word ∈ splitAll separator s) {c : Char} (hc : c ∈ word) : c ∈ s := by
  induction s generalizing word with
  | nil =>
    rw [List.mem_singleton.mp h] at hc
    cases hc
  | cons d rest ih =>
    cases hs : splitAll separator rest with
    | nil =>
      simp only [splitAll, hs, List.mem_singleton] at h
      rw [h] at hc
      exact List.mem_cons.mpr (Or.inl (List.mem_singleton.mp hc))
    | cons first words =>
      simp only [splitAll, hs] at h
      rw [hs] at ih
      split at h
      · rcases List.mem_cons.mp h with rfl | h
        · cases hc
        · exact List.mem_cons_of_mem _ (ih h hc)
      · rcases List.mem_cons.mp h with rfl | h
        · rcases List.mem_cons.mp hc with rfl | hc
          · exact List.mem_cons_self ..
          · exact List.mem_cons_of_mem _ (ih (List.mem_cons_self ..) hc)
        · exact List.mem_cons_of_mem _ (ih (List.mem_cons_of_mem _ h) hc)

theorem mem_addLoose {looseHumps : Bool} {run word : List Char} {later : List (List Char)}
    (h : word ∈ addLoose looseHumps run later) : word = run ∨ word ∈ later := by
  unfold addLoose at h
  split at h
  · exact List.mem_cons.mp h
  · exact Or.inr h

/-- The run and the humps of a word are made of its characters. -/
theorem mem_of_mem_runAndHumps (looseHumps : Bool) (s : List Char) :
    (∀ c ∈ (runAndHumps looseHumps s).1, c ∈ s) ∧
      ∀ word ∈ (runAndHumps looseHumps s).2, ∀ c ∈ word, c ∈ s := by
  induction s with
  | nil => simp [runAndHumps]
  | cons d rest ih =>
    obtain ⟨hrun, hlater⟩ := ih
    have hrun' : ∀ c ∈ (runAndHumps looseHumps rest).1, c ∈ d :: rest :=
      fun c hc => List.mem_cons_of_mem _ (hrun c hc)
    have hlater' : ∀ word ∈ (runAndHumps looseHumps rest).2, ∀ c ∈ word, c ∈ d :: rest :=
      fun word hw c hc => List.mem_cons_of_mem _ (hlater word hw c hc)
    have hstarted : ∀ c ∈ d :: (runAndHumps looseHumps rest).1, c ∈ d :: rest := by
      intro c hc
      rcases List.mem_cons.mp hc with rfl | hc
      · exact List.mem_cons_self ..
      · exact hrun' c hc
    simp only [runAndHumps]
    split
    · exact ⟨hstarted, hlater'⟩
    · split
      · refine ⟨by simp, ?_⟩
        intro word hw
        rcases List.mem_cons.mp hw with rfl | hw
        · exact hstarted
        · exact hlater' word hw
      · refine ⟨by simp, ?_⟩
        intro word hw
        rcases mem_addLoose hw with rfl | hw
        · exact hrun'
        · exact hlater' word hw

theorem mem_of_mem_parts {s word : List Char} (h : word ∈ parts s) {c : Char} (hc : c ∈ word) :
    c ∈ s := by
  unfold parts at h
  split at h
  · exact mem_of_mem_splitAll h hc
  · cases s with
    | nil => cases h
    | cons d rest =>
      have hparts := mem_of_mem_runAndHumps (!Text.isUpper d) (d :: rest)
      rcases mem_addLoose h with rfl | h
      · exact hparts.1 c hc
      · exact hparts.2 word h c hc

private theorem mem_capitalize {word : List Char} (h : ∀ c ∈ word, isClassPart c = true) :
    ∀ c ∈ Text.capitalize word, isClassPart c = true := by
  cases word with
  | nil => exact h
  | cons d rest =>
    rw [Text.capitalize_ascii fun c hc => toNat_lt_of_isClassPart (h c hc)]
    intro c hc
    rcases List.mem_cons.mp hc with rfl | hc
    · exact (isClassPart_case (h d (List.mem_cons_self ..))).1
    · obtain ⟨e, he, rfl⟩ := List.mem_map.mp hc
      exact (isClassPart_case (h e (List.mem_cons_of_mem _ he))).2

theorem mem_pascalWord {word : List Char} (h : ∀ c ∈ word, isClassPart c = true) :
    ∀ c ∈ pascalWord word, isClassPart c = true := by
  have hjoined : ∀ c ∈ (parts word).flatMap Text.capitalize, isClassPart c = true := by
    intro c hc
    obtain ⟨part, hpart, hc⟩ := List.mem_flatMap.mp hc
    exact mem_capitalize (fun d hd => h d (mem_of_mem_parts hpart hd)) c hc
  intro c hc
  unfold pascalWord at hc
  split at hc
  · rcases List.mem_cons.mp hc with rfl | hc
    · decide
    · exact hjoined c hc
  · exact hjoined c hc

/-! ## Class names -/

theorem mem_sanitize {name : Points} : ∀ c ∈ (sanitize name).toList, isClassPart c = true := by
  intro c hc
  rw [sanitize, String.toList_map, List.mem_map] at hc
  obtain ⟨d, _, rfl⟩ := hc
  split
  · assumption
  · decide

/-- A sanitized name has no dots, so that it is one word. -/
theorem toList_pascal_sanitize (name : Points) :
    (pascal (sanitize name)).toList = pascalWord (sanitize name).toList := by
  have hdot : '.' ∉ (sanitize name).toList := fun h => absurd (mem_sanitize _ h) (by decide)
  simp [pascal, pascalChars, splitAll_of_not_mem hdot]

theorem mem_pascalOrSelf {name : Points} :
    ∀ c ∈ (pascalOrSelf (sanitize name)).toList, isClassPart c = true := by
  intro c hc
  simp only [pascalOrSelf] at hc
  split at hc
  · cases hs : (sanitize name).toList with
    | nil => simp [upperFirst, hs, Text.upperFirst] at hc
    | cons d rest =>
      have hparts : ∀ c ∈ d :: rest, isClassPart c = true := hs ▸ mem_sanitize
      have hd := hparts d (List.mem_cons_self ..)
      rw [upperFirst, hs, String.toList_ofList, Text.upperFirst,
        Text.toUpper_ascii (toNat_lt_of_isClassPart hd)] at hc
      rcases List.mem_cons.mp hc with rfl | hc
      · exact (isClassPart_case hd).1
      · exact hparts c (List.mem_cons_of_mem _ hc)
  · rw [toList_pascal_sanitize] at hc
    exact mem_pascalWord mem_sanitize c hc

/-- What can go before the Pascal form of a name. -/
theorem className_eq (name : Points) :
    ∃ front ∈ ["", "_", "Unnamed", "_Unnamed"],
      className name = front ++ pascalOrSelf (sanitize name) := by
  simp only [className]
  by_cases hall : (pascalOrSelf (sanitize name)).toList.all (· == '_') = true
  · simp only [hall, ↓reduceIte]
    split
    · exact ⟨"Unnamed", by decide, rfl⟩
    · exact ⟨"_Unnamed", by decide, (String.append_assoc ..).symm⟩
  · simp only [hall, Bool.false_eq_true, ↓reduceIte]
    split
    · exact ⟨"", by decide, String.empty_append.symm⟩
    · exact ⟨"_", by decide, rfl⟩

/-- A class name has no other characters than letters, digits and underscores. -/
theorem mem_className {name : Points} :
    ∀ c ∈ (className name).toList, isClassPart c = true := by
  have hfronts : ∀ front ∈ ["", "_", "Unnamed", "_Unnamed"],
      front.toList.all isClassPart = true := by decide
  obtain ⟨front, hfront, he⟩ := className_eq name
  intro c hc
  rw [he, String.toList_append] at hc
  rcases List.mem_append.mp hc with hc | hc
  · exact List.all_eq_true.mp (hfronts front hfront) c hc
  · exact mem_pascalOrSelf c hc

/-! ## Class names as names -/

/-- Something is left of every name when an underscore may have to go before it. -/
theorem named_ne_empty (p : String) :
    (if p.toList.all (· == '_') then "Unnamed" ++ p else p) ≠ "" := by
  split
  · rw [Ne, String.append_eq_empty_iff]
    exact fun h => absurd h.1 (by decide)
  · rintro rfl
    contradiction

/-- A class name has the form of an identifier and is not reserved. -/
theorem validName_className (name : Points) : ValidName (className name) := by
  have hparts := @mem_className name
  have hne := named_ne_empty (pascalOrSelf (sanitize name))
  simp only [className] at hparts ⊢
  generalize (if (pascalOrSelf (sanitize name)).toList.all (· == '_') then
    "Unnamed" ++ pascalOrSelf (sanitize name) else pascalOrSelf (sanitize name)) = named at *
  split
  · rename_i hidentifier
    rw [if_pos hidentifier] at hparts
    exact validName_of_isIdentifier hidentifier fun h => absurd (hparts _ h) (by decide)
  · rename_i hother
    rw [if_neg hother] at hparts
    have hback : ∀ c ∈ named.toList, isNamePart c = true := by
      intro c hc
      have hpart := hparts c (by rw [String.toList_append]; exact List.mem_append_right _ hc)
      exact Bool.or_eq_true_iff.mpr (Or.inl hpart)
    exact validName_append (by decide) (by decide) hback hne

/-- A letter or an underscore, and then letters, digits and underscores. -/
def ClassForm (word : String) : Prop :=
  ∃ first rest, word.toList = first :: rest ∧ (first.isAlpha = true ∨ first = '_') ∧
    ∀ c ∈ rest, isClassPart c = true

theorem classForm_className (name : Points) : ClassForm (className name) := by
  have hname := (validName_className name).isName
  have hparts := @mem_className name
  unfold ClassForm
  cases hchars : (className name).toList with
  | nil =>
    rw [hchars] at hname
    cases hname
  | cons first rest =>
    rw [hchars] at hname hparts
    obtain ⟨hfirst, hrest⟩ := List.forall_mem_cons.mp hparts
    have hstart := (isName_cons_iff.mp hname).1
    simp only [isNameStart, Bool.or_eq_true, beq_iff_eq] at hstart
    refine ⟨first, rest, rfl, ?_, hrest⟩
    rcases hstart with h | rfl
    · exact h
    · exact absurd hfirst (by decide)

end SampleSchema.Java
