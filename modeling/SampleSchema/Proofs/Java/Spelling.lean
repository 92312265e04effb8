import SampleSchema.Proofs.Java.ClassName
/-!
What a class name keeps of the name that it is made of.

* `spelling`: the ASCII letters and digits of a text, in lower case;
* `spelling_pascalWord`: Pascal case keeps the spelling, since every letter and
  digit goes into some hump;
* `spelling_className`: so does a class name, unless there is nothing to keep;
* `className_spelled`: class names are valid, and two names share one only if they have
  the same spelling.
-/

namespace SampleSchema.Java

open Naming
open Text (Points)

/-- The ASCII letters and digits of a text, in lower case. -/
def spelling (text : List Char) : List Char := (text.filter Char.isAlphanum).map Char.toLower

@[simp] theorem spelling_nil : spelling [] = [] := rfl

@[simp] theorem spelling_append (front back : List Char) :
    spelling (front ++ back) = spelling front ++ spelling back := by
  simp [spelling]

theorem spelling_cons (c : Char) (rest : List Char) :
    spelling (c :: rest) = spelling [c] ++ spelling rest := by
  rw [← List.singleton_append, spelling_append]

theorem spelling_flatMap {α : Type} (piece : α → List Char) (parts : List α) :
    spelling (parts.flatMap piece) = parts.flatMap fun part => spelling (piece part) := by
  induction parts with
  | nil => rfl
  | cons part parts ih => simp [ih]

/-- A text in which every character is replaced by one of the same spelling. -/
theorem spelling_map {change : Char → Char} {text : List Char}
    (h : ∀ c ∈ text, spelling [change c] = spelling [c]) :
    spelling (text.map change) = spelling text := by
  induction text with
  | nil => rfl
  | cons c text ih =>
    obtain ⟨hc, htext⟩ := List.forall_mem_cons.mp h
    rw [List.map_cons, spelling_cons, spelling_cons c, hc, ih htext]

/-! ## Case -/

theorem spelling_toUpper {c : Char} (h : c.toNat < 128) :
    spelling [c.toUpper] = spelling [c] :=
  Text.forall_ascii (P := fun c => spelling [c.toUpper] = spelling [c]) (by decide +kernel) c h

private theorem spelling_toLower {c : Char} (h : c.toNat < 128) :
    spelling [c.toLower] = spelling [c] :=
  Text.forall_ascii (P := fun c => spelling [c.toLower] = spelling [c]) (by decide +kernel) c h

private theorem spelling_upperFirst {word : List Char} (h : ∀ c ∈ word, isClassPart c = true) :
    spelling (Text.upperFirst word) = spelling word := by
  cases word with
  | nil => rfl
  | cons c rest =>
    have hc := toNat_lt_of_isClassPart (h c (List.mem_cons_self ..))
    rw [Text.upperFirst, Text.toUpper_ascii hc, List.singleton_append, spelling_cons,
      spelling_toUpper hc, ← spelling_cons]

private theorem spelling_capitalize {word : List Char} (h : ∀ c ∈ word, isClassPart c = true) :
    spelling (Text.capitalize word) = spelling word := by
  cases word with
  | nil => rfl
  | cons c rest =>
    have hascii : ∀ d ∈ c :: rest, d.toNat < 128 := fun d hd => toNat_lt_of_isClassPart (h d hd)
    obtain ⟨hc, hrest⟩ := List.forall_mem_cons.mp hascii
    rw [Text.capitalize_ascii hascii, spelling_cons, spelling_toUpper hc,
      spelling_map fun d hd => spelling_toLower (hrest d hd), ← spelling_cons]

/-! ## Pascal case -/

/-- Only separators are lost where a text is split. -/
theorem spelling_splitAll (s : List Char) :
    (splitAll '_' s).flatMap spelling = spelling s := by
  have hseparator : spelling ['_'] = [] := by decide
  induction s with
  | nil => rfl
  | cons c rest ih =>
    rw [spelling_cons, ← ih]
    cases hs : splitAll '_' rest with
    | nil => simp [splitAll, hs]
    | cons first words =>
      simp only [splitAll, hs]
      split
      · rename_i hc
        simp [hc, hseparator]
      · rw [List.flatMap_cons, List.flatMap_cons, spelling_cons, List.append_assoc]

theorem isAlphanum_eq (c : Char) :
    c.isAlphanum = (c.isUpper || c.isLower || c.isDigit) :=
  rfl

/-- Characters of humps: the first of one, or one that continues it. -/
theorem isUpper_of_isAlphanum {c : Char} (h : c.isAlphanum = true) (ht : isHumpTail c = false) :
    c.isUpper = true := by
  simp only [isHumpTail, Bool.or_eq_false_iff] at ht
  simpa [isAlphanum_eq, ht] using h

/-- The run of a word and its humps are the word, if every character fits a hump. -/
theorem runAndHumps_flatten (looseHumps : Bool) {word : List Char}
    (h : ∀ c ∈ word, c.isAlphanum = true) :
    (runAndHumps looseHumps word).1 ++ (runAndHumps looseHumps word).2.flatten = word := by
  induction word with
  | nil => rfl
  | cons c rest ih =>
    obtain ⟨hc, hrest⟩ := List.forall_mem_cons.mp h
    have hsplit := ih hrest
    simp only [runAndHumps]
    by_cases ht : isHumpTail c = true
    · simp [ht, hsplit]
    · have hu := isUpper_of_isAlphanum hc (Bool.not_eq_true _ ▸ ht)
      simp [ht, hu, hsplit]

/-- A word that starts with a capital letter has no run before its humps. -/
theorem run_eq_nil {looseHumps : Bool} {c : Char} {rest : List Char} (h : c.isUpper = true) :
    (runAndHumps looseHumps (c :: rest)).1 = [] := by
  have ht : isHumpTail c = false := by
    have hlower : c.isUpper = true → isHumpTail c = false :=
      Text.forall_ascii (P := fun c => c.isUpper = true → isHumpTail c = false)
        (by decide +kernel) c
        (Text.toNat_lt_of_isAlphanum (by simp [isAlphanum_eq, h]))
    exact hlower h
  simp [runAndHumps, ht, h]

private theorem humps_flatten {looseHumps : Bool} {c : Char} {rest : List Char}
    (h : ∀ d ∈ c :: rest, d.isAlphanum = true) (hloose : looseHumps = false → c.isUpper = true) :
    (humps looseHumps (c :: rest)).flatten = c :: rest := by
  have hsplit := runAndHumps_flatten looseHumps h
  cases looseHumps with
  | false =>
    rw [run_eq_nil (hloose rfl), List.nil_append] at hsplit
    simpa [humps, addLoose] using hsplit
  | true =>
    cases hrun : (runAndHumps true (c :: rest)).1 with
    | nil => simpa [humps, addLoose, hrun] using hsplit
    | cons d run => simpa [humps, addLoose, hrun] using hsplit

/-- The parts of a word have its spelling. -/
theorem spelling_parts {word : List Char} (h : ∀ c ∈ word, isClassPart c = true) :
    (parts word).flatMap spelling = spelling word := by
  unfold parts
  split
  · exact spelling_splitAll word
  · rename_i hseparator
    cases word with
    | nil => rfl
    | cons c rest =>
      have halnum : ∀ d ∈ c :: rest, d.isAlphanum = true := by
        intro d hd
        have hne : d ≠ '_' := fun he => hseparator (List.contains_iff_mem.mpr (he ▸ hd))
        simpa [isClassPart, hne] using h d hd
      have hc := toNat_lt_of_isClassPart (h c (List.mem_cons_self ..))
      have hflat : (humps (!Text.isUpper c) (c :: rest)).flatten = c :: rest := by
        refine humps_flatten halnum fun hu => Text.isUpper_of_ascii hc ?_
        simpa using hu
      rw [← spelling_flatMap fun part => part, List.flatMap_id', hflat]

theorem spelling_pascalWord {word : List Char} (h : ∀ c ∈ word, isClassPart c = true) :
    spelling (pascalWord word) = spelling word := by
  have hseparator : spelling ['_'] = [] := by decide
  have hjoined : spelling ((parts word).flatMap Text.capitalize) = spelling word := by
    rw [spelling_flatMap, ← spelling_parts h, List.flatMap_def, List.flatMap_def]
    refine congrArg List.flatten (List.map_congr_left fun part hpart => ?_)
    exact spelling_capitalize fun c hc => h c (mem_of_mem_parts hpart hc)
  unfold pascalWord
  split
  · rw [spelling_cons, hseparator, hjoined, List.nil_append]
  · exact hjoined

/-! ## Class names -/

private theorem spelling_sanitize (name : Points) :
    spelling (sanitize name).toList = spelling name.shown.toList := by
  rw [sanitize, String.toList_map]
  refine spelling_map fun c _ => ?_
  split
  · rfl
  · rename_i hc
    have hc : c.isAlphanum = false := by
      simp only [Bool.or_eq_true, not_or, Bool.not_eq_true] at hc
      exact hc.1
    have hseparator : spelling ['_'] = [] := by decide
    simp [spelling, hc] at hseparator ⊢

private theorem spelling_pascalOrSelf (name : Points) :
    spelling (pascalOrSelf (sanitize name)).toList = spelling name.shown.toList := by
  simp only [pascalOrSelf]
  split
  · rw [upperFirst, String.toList_ofList, spelling_upperFirst mem_sanitize, spelling_sanitize]
  · rw [toList_pascal_sanitize, spelling_pascalWord mem_sanitize, spelling_sanitize]

/-- Text of a class name that has no letters and digits is underscores. -/
theorem all_underscore_iff {text : List Char} (h : ∀ c ∈ text, isClassPart c = true) :
    text.all (· == '_') = true ↔ spelling text = [] := by
  rw [spelling, List.map_eq_nil_iff, List.filter_eq_nil_iff, List.all_eq_true]
  refine forall₂_congr fun c hc => ?_
  have hpart := h c hc
  simp only [isClassPart, Bool.or_eq_true] at hpart
  constructor
  · intro he
    rw [beq_iff_eq.mp he]
    decide
  · exact hpart.resolve_left

/-- A class name is spelled like the name that it is made of. A name without
letters and digits is called `Unnamed`. -/
theorem spelling_className (name : Points) :
    spelling (className name).toList =
      if spelling name.shown.toList = [] then spelling "Unnamed".toList
      else spelling name.shown.toList := by
  have hall := all_underscore_iff (@mem_pascalOrSelf name)
  rw [spelling_pascalOrSelf] at hall
  have hidentifier (named : String) :
      spelling (if isIdentifier named then named else "_" ++ named).toList =
        spelling named.toList := by
    have hseparator : spelling "_".toList = [] := by decide
    split
    · rfl
    · rw [String.toList_append, spelling_append, hseparator, List.nil_append]
  simp only [className, hidentifier, hall]
  split
  · rename_i hnone
    rw [String.toList_append, spelling_append, spelling_pascalOrSelf, hnone, List.append_nil]
  · exact spelling_pascalOrSelf name

/-- There is something to keep of a text with a letter or a digit. -/
theorem spelling_ne_nil {text : List Char} (h : ∃ c ∈ text, c.isAlphanum = true) :
    spelling text ≠ [] := by
  obtain ⟨c, hc, halnum⟩ := h
  rw [spelling, Ne, List.map_eq_nil_iff, List.filter_eq_nil_iff]
  exact fun hnone => hnone c hc halnum

private theorem spelling_className_of_exists {name : Points}
    (h : ∃ c ∈ name.shown.toList, c.isAlphanum = true) :
    spelling (className name).toList = spelling name.shown.toList := by
  rw [spelling_className, if_neg (spelling_ne_nil h)]

/-- Every class name has the form of one and is not reserved. Pascal case neither drops
nor reorders a letter or a digit, so that a class name has the letters and digits of its
name, up to case, if that has any, and of two such names the same class is made only
if they agree in these. -/
theorem className_spelled (name : Points) :
    ClassForm (className name) ∧ isReserved (className name) = false ∧
    spelling (pascal (sanitize name)).toList = spelling (sanitize name).toList ∧
    ((∃ c ∈ name.shown.toList, c.isAlphanum = true) →
      spelling (className name).toList = spelling name.shown.toList ∧
      ∀ other : Points, (∃ c ∈ other.shown.toList, c.isAlphanum = true) →
        className name = className other →
          spelling name.shown.toList = spelling other.shown.toList) := by
  refine ⟨classForm_className name, (validName_className name).not_reserved, ?_, fun h => ?_⟩
  · rw [toList_pascal_sanitize, spelling_pascalWord mem_sanitize]
  · refine ⟨spelling_className_of_exists h, fun other hother he => ?_⟩
    calc spelling name.shown.toList
        = spelling (className name).toList := (spelling_className_of_exists h).symm
      _ = spelling (className other).toList := by rw [he]
      _ = spelling other.shown.toList := spelling_className_of_exists hother

end SampleSchema.Java
