import Mathlib.Data.List.Nodup
import SampleSchema.Proofs.Text.Point
import SampleSchema.Schema.Registry
/-!
How the classes of a registry look after each change to it.

* `find?_put`, `names_put`: a field that is put is found under its name, and
  the names of the other fields keep their order;
* `sortByName_perm`, `sortByName_strict`: sorting keeps the fields, and sorts
  them strictly when no name is repeated;
* `names_create`, `observed?_create`, `observed?_put`: a created class goes to
  the end and shows nothing, and a field that is put changes one property of
  one class;
* `field?_finalize`: a finalized class has the fields that were observed;
* `type?`, `propertyNames?`: what a finalized class shows, told from what was
  observed.
-/

namespace SampleSchema.Schema

open Text

/-- In a list without repeated keys an entry is found by being there. -/
theorem find?_key_eq_some_iff {α : Type} (key : α → Points) {entries : List α}
    (h : (entries.map key).Nodup) (a : α) (name : Points) :
    entries.find? (key · == name) = some a ↔ a ∈ entries ∧ key a = name := by
  induction entries with
  | nil => simp
  | cons b rest ih =>
    simp only [List.map_cons, List.nodup_cons, List.mem_map, not_exists, not_and] at h
    by_cases hb : key b = name
    · rw [List.find?_cons_of_pos (by simpa using hb)]
      constructor
      · intro e
        cases e
        exact ⟨List.mem_cons_self .., hb⟩
      · rintro ⟨ha, hn⟩
        rcases List.mem_cons.mp ha with e | e
        · rw [e]
        · exact absurd (hn.trans hb.symm) (h.1 a e)
    · rw [List.find?_cons_of_neg (by simpa using hb), ih h.2, List.mem_cons]
      constructor
      · rintro ⟨ha, hn⟩
        exact ⟨Or.inr ha, hn⟩
      · rintro ⟨ha | ha, hn⟩
        · exact absurd (ha ▸ hn) hb
        · exact ⟨ha, hn⟩

namespace InferredField

/-! ## Observed fields -/

theorem names_put (f : InferredField) (fields : List InferredField) :
    (f.put fields).map (·.name) =
      if f.name ∈ fields.map (·.name) then fields.map (·.name)
      else fields.map (·.name) ++ [f.name] := by
  induction fields with
  | nil => simp [put]
  | cons g rest ih =>
    by_cases hg : g.name = f.name
    · simp [put, hg]
    · have hne : f.name ≠ g.name := fun e => hg e.symm
      simp only [put, hg, ↓reduceIte, List.map_cons, ih, List.mem_cons, hne, false_or]
      split <;> rfl

theorem nodup_put (f : InferredField) {fields : List InferredField}
    (h : (fields.map (·.name)).Nodup) : ((f.put fields).map (·.name)).Nodup := by
  rw [names_put]
  split
  · exact h
  · rename_i hf
    rw [List.nodup_append]
    refine ⟨h, by simp, ?_⟩
    intro a ha b hb hab
    rw [List.mem_singleton.mp hb] at hab
    exact hf (hab ▸ ha)

theorem find?_put (f : InferredField) (fields : List InferredField) (property : Points) :
    (f.put fields).find? (·.name == property) =
      if f.name = property then some f else fields.find? (·.name == property) := by
  induction fields with
  | nil => by_cases hp : f.name = property <;> simp [put, hp]
  | cons g rest ih =>
    by_cases hg : g.name = f.name
    · by_cases hp : f.name = property <;> simp [put, hg, hp]
    · by_cases hp : g.name = property
      · subst hp
        have hf : f.name ≠ g.name := fun e => hg e.symm
        simp [put, hg, hf]
      · simp [put, hg, hp, ih]

/-! ## Sorted fields -/

theorem insertSorted_perm (f : InferredField) (fields : List InferredField) :
    (insertSorted f fields).Perm (f :: fields) := by
  induction fields with
  | nil => exact List.Perm.refl _
  | cons g rest ih =>
    simp only [insertSorted]
    split
    · exact List.Perm.refl _
    · exact (ih.cons g).trans (List.Perm.swap f g rest)

theorem sortByName_perm (fields : List InferredField) : (sortByName fields).Perm fields := by
  induction fields with
  | nil => exact List.Perm.refl _
  | cons f rest ih => exact (insertSorted_perm f _).trans (ih.cons f)

private theorem insertSorted_sorted (f : InferredField) {fields : List InferredField}
    (h : fields.Pairwise (·.name ≤ ·.name)) :
    (insertSorted f fields).Pairwise (·.name ≤ ·.name) := by
  induction fields with
  | nil => exact List.pairwise_singleton _ _
  | cons g rest ih =>
    obtain ⟨hg, hrest⟩ := List.pairwise_cons.mp h
    simp only [insertSorted]
    split
    · rename_i hf
      refine List.pairwise_cons.mpr ⟨?_, h⟩
      intro k hk
      rcases List.mem_cons.mp hk with e | e
      · exact e ▸ hf
      · exact Std.le_trans hf (hg k e)
    · rename_i hf
      refine List.pairwise_cons.mpr ⟨?_, ih hrest⟩
      intro k hk
      rcases List.mem_cons.mp ((insertSorted_perm f rest).mem_iff.mp hk) with e | e
      · exact e ▸ (Std.le_total (a := f.name) (b := g.name)).resolve_left hf
      · exact hg k e

theorem sortByName_sorted (fields : List InferredField) :
    (sortByName fields).Pairwise (·.name ≤ ·.name) := by
  induction fields with
  | nil => exact List.Pairwise.nil
  | cons f rest ih => exact insertSorted_sorted f ih

/-- Distinct names are sorted strictly. -/
theorem sortByName_strict {fields : List InferredField} (h : (fields.map (·.name)).Nodup) :
    (sortByName fields).Pairwise (·.name < ·.name) := by
  have hd : (sortByName fields).Pairwise (·.name ≠ ·.name) := by
    have hm := ((sortByName_perm fields).map (·.name)).nodup_iff.mpr h
    exact List.pairwise_map.mp hm
  exact ((sortByName_sorted fields).and hd).imp fun hk => Std.lt_of_le_of_ne hk.1 hk.2

/-- For distinct names it does not matter how fields are sorted. -/
theorem mergeSort_eq_sortByName {fields : List InferredField} (h : (fields.map (·.name)).Nodup) :
    (fields.mergeSort fun f g => f.name ≤ g.name) = sortByName fields := by
  have hp := (List.mergeSort_perm fields fun f g => f.name ≤ g.name).trans
    (sortByName_perm fields).symm
  have hs : (fields.mergeSort fun f g => f.name ≤ g.name).Pairwise (·.name ≤ ·.name) := by
    have hle : (fields.mergeSort fun f g => f.name ≤ g.name).Pairwise
        fun f g => decide (f.name ≤ g.name) = true := by
      apply List.pairwise_mergeSort
      · intro a b c hab hbc
        exact decide_eq_true (Std.le_trans (of_decide_eq_true hab) (of_decide_eq_true hbc))
      · intro a b
        simpa using Std.le_total
    exact hle.imp of_decide_eq_true
  refine hp.eq_of_pairwise ?_ hs (sortByName_sorted fields)
  intro f g hf hg hfg hgf
  exact List.inj_on_of_nodup_map h (List.mem_mergeSort.mp hf)
    ((sortByName_perm fields).mem_iff.mp hg) (Std.le_antisymm hfg hgf)

theorem find?_sortByName {fields : List InferredField} (h : (fields.map (·.name)).Nodup)
    (property : Points) :
    (sortByName fields).find? (·.name == property) = fields.find? (·.name == property) := by
  have hp := sortByName_perm fields
  have hs : ((sortByName fields).map (·.name)).Nodup := (hp.map (·.name)).nodup_iff.mpr h
  apply Option.ext
  intro f
  rw [find?_key_eq_some_iff _ hs, find?_key_eq_some_iff _ h, hp.mem_iff]

/-- Sorted names depend on which names there are, and not on their order. -/
theorem names_sortByName_congr {fields others : List InferredField}
    (h : (fields.map (·.name)).Nodup) (h' : (others.map (·.name)).Nodup)
    (hm : ∀ name, name ∈ fields.map (·.name) ↔ name ∈ others.map (·.name)) :
    (sortByName fields).map (·.name) = (sortByName others).map (·.name) := by
  have hp : (fields.map (·.name)).Perm (others.map (·.name)) :=
    (List.perm_ext_iff_of_nodup h h').mpr hm
  have hs := (((sortByName_perm fields).map (·.name)).trans hp).trans
    ((sortByName_perm others).map (·.name)).symm
  exact hs.eq_of_pairwise (fun _ _ _ _ => Std.le_antisymm)
    (List.pairwise_map.mpr (sortByName_sorted fields))
    (List.pairwise_map.mpr (sortByName_sorted others))

end InferredField

/-! ## Classes -/

namespace Registry

theorem contains_iff (r : Registry) (name : Points) : r.contains name = true ↔ name ∈ r.names := by
  simp [contains, names]

theorem names_create (r : Registry) (name : Points) :
    (r.create name).names = if name ∈ r.names then r.names else r.names ++ [name] := by
  by_cases h : name ∈ r.names
  · simp [create, (r.contains_iff name).mpr h, h]
  · have hc : r.contains name = false := by
      rw [← Bool.not_eq_true, contains_iff]
      exact h
    rw [if_neg h]
    simp [create, hc, names]

theorem mem_create {r : Registry} {name : Points} {c : InferredClass}
    (h : c ∈ (r.create name).classes) : c ∈ r.classes ∨ c = { name := name } := by
  unfold create at h
  split at h
  · exact Or.inl h
  · rcases List.mem_append.mp h with e | e
    · exact Or.inl e
    · exact Or.inr (List.mem_singleton.mp e)

theorem mem_put {r : Registry} {name : Points} {f : InferredField} {c : InferredClass}
    (h : c ∈ (r.put name f).classes) : c ∈ r.classes ∨ ∃ b ∈ r.classes, c = b.put f := by
  obtain ⟨b, hb, rfl⟩ := List.mem_map.mp h
  by_cases hn : b.name = name
  · exact Or.inr ⟨b, hb, by simp [hn]⟩
  · exact Or.inl (by simpa [hn] using hb)

@[simp] theorem names_put (r : Registry) (name : Points) (f : InferredField) :
    (r.put name f).names = r.names := by
  simp only [names, put, modify, List.map_map]
  apply List.map_congr_left
  intro c _
  by_cases hc : c.name = name <;> simp [hc, InferredClass.put]

@[simp] theorem names_finalize (r : Registry) : r.finalize.names = r.names := by
  simp [names, finalize, InferredClass.finalize, Function.comp_def]

theorem get?_eq_some_iff {r : Registry} (h : r.names.Nodup) (c : InferredClass) (name : Points) :
    r.get? name = some c ↔ c ∈ r.classes ∧ c.name = name :=
  find?_key_eq_some_iff (fun b : InferredClass => b.name) h c name

/-- A class that is created shows no field. -/
theorem observed?_create (r : Registry) (name other property : Points) :
    (r.create name).observed? other property = r.observed? other property := by
  unfold create
  split
  · rfl
  · simp only [observed?, get?, List.find?_append]
    cases r.classes.find? (·.name == other) with
    | some c => rfl
    | none =>
      by_cases hn : name = other <;> simp [hn, InferredClass.observed?]

private theorem get?_put (r : Registry) (name : Points) (f : InferredField) (other : Points) :
    (r.put name f).get? other =
      (r.get? other).map fun c => if c.name = name then c.put f else c := by
  simp only [get?, put, modify, List.find?_map]
  congr 2
  funext c
  by_cases hc : c.name = name <;> simp [hc, InferredClass.put]

theorem name_of_get? {r : Registry} {name : Points} {c : InferredClass}
    (h : r.get? name = some c) : c.name = name := by
  simpa using List.find?_some h

theorem exists_get? {r : Registry} {name : Points} (h : name ∈ r.names) :
    ∃ c, r.get? name = some c := by
  obtain ⟨c, hc, hn⟩ := List.mem_map.mp h
  exact Option.isSome_iff_exists.mp (List.find?_isSome.mpr ⟨c, hc, by simpa using hn⟩)

/-- A field that is put changes one property of one class. -/
theorem observed?_put {r : Registry} {name : Points} (h : name ∈ r.names) (f : InferredField)
    (other property : Points) :
    (r.put name f).observed? other property =
      if name = other ∧ f.name = property then some f else r.observed? other property := by
  obtain ⟨b, hb⟩ := exists_get? h
  simp only [observed?, get?_put]
  by_cases ho : name = other
  · subst ho
    simp only [hb, name_of_get? hb, Option.map_some, Option.bind_some, ↓reduceIte, true_and]
    exact InferredField.find?_put f b.observed property
  · simp only [ho, false_and, ↓reduceIte]
    cases hc : r.get? other with
    | none => rfl
    | some c =>
      have hn : c.name ≠ name := fun e => ho (e.symm.trans (name_of_get? hc))
      simp [hn]

/-- A class that is not there is not changed. -/
theorem modify_of_not_mem {r : Registry} {name : Points} (h : name ∉ r.names)
    (change : InferredClass → InferredClass) : r.modify name change = r := by
  have hm : (r.modify name change).classes = r.classes.map id := by
    apply List.map_congr_left
    intro c hc
    have hne : c.name ≠ name := fun e => h (e ▸ List.mem_map_of_mem hc)
    simp [hne]
  rw [List.map_id] at hm
  exact congrArg Registry.mk hm

private theorem put_of_not_mem {r : Registry} {name : Points} (h : name ∉ r.names)
    (f : InferredField) :
    r.put name f = r := modify_of_not_mem h _

theorem observed?_put_cases {r : Registry} {name other property : Points} {f g : InferredField}
    (h : (r.put name f).observed? other property = some g) :
    name = other ∧ f.name = property ∧ f = g ∨ r.observed? other property = some g := by
  by_cases hn : name ∈ r.names
  · rw [observed?_put hn] at h
    split at h
    · rename_i he
      exact Or.inl ⟨he.1, he.2, Option.some.inj h⟩
    · exact Or.inr h
  · rw [put_of_not_mem hn] at h
    exact Or.inr h

/-- Each class keeps its observed fields apart by name. -/
def Distinct (r : Registry) : Prop := ∀ c ∈ r.classes, (c.observed.map (·.name)).Nodup

theorem observed?_eq_some_iff {r : Registry} (h : r.names.Nodup) (hd : r.Distinct)
    {c : InferredClass} (hc : c ∈ r.classes) (f : InferredField) (property : Points) :
    r.observed? c.name property = some f ↔ f ∈ c.observed ∧ f.name = property := by
  have hget : r.get? c.name = some c := (get?_eq_some_iff h c c.name).mpr ⟨hc, rfl⟩
  rw [observed?, hget]
  exact find?_key_eq_some_iff _ (hd c hc) f property

theorem mem_finalize {r : Registry} {c : InferredClass} (h : c ∈ r.finalize.classes) :
    ∃ b ∈ r.classes, c = b.finalize := by
  obtain ⟨b, hb, rfl⟩ := List.mem_map.mp h
  exact ⟨b, hb, rfl⟩

/-- A finalized class has the fields that were observed. -/
theorem field?_finalize {r : Registry} (hd : r.Distinct) (name property : Points) :
    (r.finalize.get? name).bind (·.field? property) = r.observed? name property := by
  simp only [get?, observed?, finalize, List.find?_map]
  have hp : (fun c : InferredClass => c.name == name) ∘ InferredClass.finalize =
      fun c => c.name == name := rfl
  rw [hp]
  cases hc : r.classes.find? (·.name == name) with
  | none => rfl
  | some c =>
    exact InferredField.find?_sortByName (hd c (List.mem_of_find?_eq_some hc)) property

/-! ## What finalized classes show -/

def type? (r : Registry) (className property : Points) : Option FieldType :=
  ((r.get? className).bind (·.field? property)).map (·.type)

def propertyNames? (r : Registry) (className : Points) : Option (List Points) :=
  (r.get? className).map fun c => c.fields.map (·.name)

theorem type?_finalize {r : Registry} (hd : r.Distinct) (className property : Points) :
    r.finalize.type? className property = (r.observed? className property).map (·.type) := by
  rw [type?, field?_finalize hd]

private theorem propertyNames?_finalize (r : Registry) (className : Points) :
    r.finalize.propertyNames? className =
      (r.get? className).map fun c => (InferredField.sortByName c.observed).map (·.name) := by
  simp only [propertyNames?, get?, finalize, List.find?_map, Option.map_map]
  rfl

theorem mem_names_iff_get? (r : Registry) (name : Points) :
    name ∈ r.names ↔ ∃ c, r.get? name = some c := by
  constructor
  · exact exists_get?
  · rintro ⟨c, hc⟩
    exact List.mem_map.mpr ⟨c, List.mem_of_find?_eq_some hc, name_of_get? hc⟩

theorem get?_eq_none_iff {r : Registry} {name : Points} : r.get? name = none ↔ name ∉ r.names := by
  rw [mem_names_iff_get?, ← Option.isSome_iff_exists, Option.not_isSome_iff_eq_none]

private theorem mem_observed_iff {r : Registry} {className : Points} {c : InferredClass}
    (hc : r.get? className = some c) (property : Points) :
    property ∈ c.observed.map (·.name) ↔ ∃ f, r.observed? className property = some f := by
  rw [← Option.isSome_iff_exists, observed?, hc]
  simp [InferredClass.observed?]

/-- The properties of a class depend on which of them were observed, and not on
their order. -/
theorem propertyNames?_finalize_congr {r r' : Registry} (hd : r.Distinct) (hd' : r'.Distinct)
    {className : Points} (hc : className ∈ r.names ↔ className ∈ r'.names)
    (ho : ∀ property, (∃ f, r.observed? className property = some f) ↔
      ∃ f, r'.observed? className property = some f) :
    r.finalize.propertyNames? className = r'.finalize.propertyNames? className := by
  rw [mem_names_iff_get?, mem_names_iff_get?] at hc
  simp only [propertyNames?_finalize]
  cases hg : r.get? className with
  | none =>
    cases hg' : r'.get? className with
    | none => rfl
    | some c' => exact absurd (hc.mpr ⟨c', hg'⟩) (by simp [hg])
  | some c =>
    obtain ⟨c', hg'⟩ := hc.mp ⟨c, hg⟩
    rw [hg', Option.map_some, Option.map_some]
    congr 1
    refine InferredField.names_sortByName_congr (hd c (List.mem_of_find?_eq_some hg))
      (hd' c' (List.mem_of_find?_eq_some hg')) ?_
    intro property
    rw [mem_observed_iff hg, mem_observed_iff hg', ho]

end Registry
end SampleSchema.Schema
