import SampleSchema.Naming.Singular
import SampleSchema.Proofs.Infer.Content
import SampleSchema.Proofs.Infer.Strict
/-!
Documents that differ only in the order of the keys of their objects.

* `Reordered`: the relation between such documents;
* `marks_tourOf`: the steps over them are the same up to their order, as far as
  no null is concerned;
* `clashing_congr`, `settled_congr`: a clash and the types strict mode settles
  on depend on which types are shown, and not on their order;
* `build_reordered`: the builds of such documents give the same classes with
  the same properties. Without nulls strict mode also takes both or none, and
  gives the same types apart from fallbacks.
-/

namespace SampleSchema.Infer

open Json Schema Text FieldType

variable {singular : Points → Points}

/-- Documents that differ only in the order of the keys of their objects, at
any depth. The items of an array keep their order. -/
inductive Reordered : Document → Document → Prop
  | refl (v : Document) : Reordered v v
  | trans {u v w : Document} : Reordered u v → Reordered v w → Reordered u w
  | keys {members others : List (Points × Document)} : members.Perm others →
      Reordered (.object members) (.object others)
  | member {v w : Document} (front back : List (Points × Document)) (key : Points) : Reordered v w →
      Reordered (.object (front ++ (key, v) :: back)) (.object (front ++ (key, w) :: back))
  | item {v w : Document} (front back : List Document) : Reordered v w →
      Reordered (.array (front ++ v :: back)) (.array (front ++ w :: back))

namespace Reordered

variable {v w : Document}

theorem kind_eq (h : Reordered v w) : v.kind = w.kind := by
  induction h with
  | refl => rfl
  | trans _ _ ih₁ ih₂ => exact ih₁.trans ih₂
  | keys => rfl
  | member => rfl
  | item => rfl

private theorem itemType_eq (h : Reordered v w) (property : Points) :
    itemType singular property v = itemType singular property w := by
  induction h with
  | refl => rfl
  | trans _ _ ih₁ ih₂ => exact ih₁.trans ih₂
  | keys => rfl
  | member => rfl
  | item => rfl

private theorem resolve_eq (singular : Points → Points) (h : Reordered v w)
    (isClass : Points → Bool) (property : Points) :
    resolve singular isClass property v = resolve singular isClass property w := by
  induction h with
  | refl => rfl
  | trans _ _ ih₁ ih₂ => exact ih₁.trans ih₂
  | keys => rfl
  | member => rfl
  | item front back h =>
    cases front with
    | nil => simp [resolve, h.itemType_eq property]
    | cons first rest => rfl

private theorem object_left {others : List (Points × Document)} (h : Reordered v (.object others)) :
    ∃ members, v = .object members := by
  have hk := h.kind_eq
  cases v with
  | object members => exact ⟨members, rfl⟩
  | _ => cases hk

theorem object_right {members : List (Points × Document)} (h : Reordered (.object members) w) :
    ∃ others, w = .object others := by
  have hk := h.kind_eq
  cases w with
  | object others => exact ⟨others, rfl⟩
  | _ => cases hk

private theorem walkable_iff (h : Reordered v w) (root : Points) :
    Walkable root v ↔ Walkable root w := by
  constructor
  · rintro ⟨hroot, members, rfl⟩
    exact ⟨hroot, h.object_right⟩
  · rintro ⟨hroot, others, rfl⟩
    exact ⟨hroot, h.object_left⟩

end Reordered

/-! ## The steps without their order -/

/-- What a step has to do with a class: an object of it begins, or one of its
properties shows a type. A null is marked as if it were never an object. -/
def Step.mark (singular : Points → Points) : Step → Points × Option (Points × FieldType)
  | .enter className => (className, none)
  | .visit className property v =>
    (className, some (property, resolve singular (fun _ => false) property v))

private theorem enter_mem_iff_mark {className : Points} {steps : List Step} :
    .enter className ∈ steps ↔ (className, none) ∈ steps.map (Step.mark singular) := by
  rw [List.mem_map]
  constructor
  · intro h
    exact ⟨_, h, rfl⟩
  · rintro ⟨s, hs, he⟩
    cases s with
    | enter => cases he; exact hs
    | visit => cases he

theorem visit_mem_iff_mark {className property : Points} {steps : List Step} {t : FieldType} :
    (∃ v, .visit className property v ∈ steps ∧ resolve singular (fun _ => false) property v = t) ↔
      (className, some (property, t)) ∈ steps.map (Step.mark singular) := by
  rw [List.mem_map]
  constructor
  · rintro ⟨v, hv, rfl⟩
    exact ⟨_, hv, rfl⟩
  · rintro ⟨s, hs, he⟩
    cases s with
    | enter => cases he
    | visit => cases he; exact ⟨_, hs, rfl⟩

private theorem visited_iff_mark (singular : Points → Points) {className property : Points}
    {steps : List Step} :
    (∃ v, .visit className property v ∈ steps) ↔
      ∃ t, (className, some (property, t)) ∈ steps.map (Step.mark singular) := by
  simp only [← visit_mem_iff_mark]
  constructor
  · rintro ⟨v, hv⟩
    exact ⟨_, v, hv, rfl⟩
  · rintro ⟨_, v, hv, _⟩
    exact ⟨v, hv⟩

private theorem tour_eq_flatMap (className : Points) (members : List (Points × Document)) :
    tour singular className members =
      members.flatMap fun m => tourOf singular m.1 m.2 ++ [.visit className m.1 m.2] := by
  induction members with
  | nil => rw [tour]; rfl
  | cons m rest ih => rw [tour, ih]; simp

/-- The steps below an array are those below its first item, if that is an
object, in the class of the singular. -/
theorem tourOf_array_cons (property : Points) (v : Document) (rest : List Document) :
    tourOf singular property (.array (v :: rest)) =
      if v.kind = .object then tourOf singular (singular property) v else [] := by
  cases v <;> simp [tourOf, Tree.kind]

/-- The steps below reordered values have the same marks. -/
theorem marks_tourOf (singular : Points → Points) {v w : Document} (h : Reordered v w)
    (property : Points) :
    ((tourOf singular property v).map (Step.mark singular)).Perm
      ((tourOf singular property w).map (Step.mark singular)) := by
  -- for every property, since the first item of an array is walked under another
  induction h generalizing property with
  | refl => exact List.Perm.refl _
  | trans _ _ ih₁ ih₂ => exact (ih₁ property).trans (ih₂ property)
  | keys hp =>
    rw [tourOf, tourOf, tour_eq_flatMap, tour_eq_flatMap]
    exact ((hp.flatMap_right _).cons _).map _
  | member front back key h ih =>
    have hvisit := h.resolve_eq singular (fun _ => false) key
    simp only [tourOf, tour_eq_flatMap, List.flatMap_append, List.flatMap_cons, List.map_cons,
      List.map_append, List.map_nil, Step.mark, hvisit]
    exact ((((ih key).append_right _).append_right _).append_left _).cons _
  | item front back h ih =>
    cases front with
    | nil =>
      rw [List.nil_append, List.nil_append, tourOf_array_cons, tourOf_array_cons, h.kind_eq]
      split
      · exact ih (singular property)
      · exact List.Perm.refl _
    | cons first rest =>
      rw [List.cons_append, List.cons_append, tourOf_array_cons, tourOf_array_cons]

theorem marks_documentTour (singular : Points → Points) {members others : List (Points × Document)}
    (h : Reordered (.object members) (.object others)) (root : Points) :
    ((documentTour singular root members).map (Step.mark singular)).Perm
      ((documentTour singular root others).map (Step.mark singular)) := by
  have hp := marks_tourOf singular h root
  rw [tourOf, tourOf] at hp
  exact hp

/-! ## Documents without nulls -/

/-- No property of a walked object is null. -/
def WithoutNulls (singular : Points → Points) (root : Points) (document : Document) : Prop :=
  ∀ members, document = .object members →
    ∀ o ∈ walkedObjects singular root members, ∀ property, (property, .null) ∉ o.2

private theorem noNull_of_withoutNulls {root : Points} {members : List (Points × Document)}
    (h : WithoutNulls singular root (.object members)) (className property : Points) :
    .visit className property .null ∉ documentTour singular root members := by
  rw [visit_mem_documentTour]
  rintro ⟨ms, hms, hnull⟩
  exact h members rfl (className, ms) hms property hnull

/-- Only a null resolves by the classes that exist. -/
theorem resolve_of_ne_null {v : Document} (h : v ≠ .null) (isClass isClass' : Points → Bool)
    (property : Points) :
    resolve singular isClass property v = resolve singular isClass' property v := by
  cases v with
  | null => exact absurd rfl h
  | array items => cases items <;> rfl
  | _ => rfl

/-- Only a null is marked with the type of a null. -/
theorem resolve_eq_anything_iff (property : Points) (v : Document) :
    resolve singular (fun _ => false) property v = anything ↔ v = .null := by
  cases v with
  | array items => cases items <;> simp [resolve, anything]
  | _ => simp [resolve, scalarType, boolean, integer, decimal, text, anything]

private theorem no_null_iff_mark {steps : List Step} :
    (∀ className property, .visit className property .null ∉ steps) ↔
      ∀ className property,
        (className, some (property, anything)) ∉ steps.map (Step.mark singular) := by
  simp only [← visit_mem_iff_mark, resolve_eq_anything_iff]
  simp

private theorem mem_typesOf_iff_mark {steps : List Step}
    (hn : ∀ className property, .visit className property .null ∉ steps)
    (className property : Points) (t : FieldType) :
    t ∈ typesOf className property (visitsAfter singular [] steps) ↔
      (className, some (property, t)) ∈ steps.map (Step.mark singular) := by
  rw [mem_typesOf, ← visit_mem_iff_mark]
  constructor
  · rintro ⟨w, hw, rfl, rfl, rfl⟩
    obtain ⟨hm, isClass, ht⟩ := of_mem_visitsAfter hw
    have hne : w.value ≠ .null := fun e => hn w.className w.property (e ▸ hm)
    exact ⟨w.value, hm, by rw [ht, resolve_of_ne_null hne]⟩
  · rintro ⟨v, hv, rfl⟩
    have hne : v ≠ .null := fun e => hn className property (e ▸ hv)
    obtain ⟨isClass, hm⟩ := exists_visit [] hv
    exact ⟨_, hm, rfl, rfl, resolve_of_ne_null hne isClass _ property⟩

/-! ## Visits without their order -/

private theorem clashing_iff_types {vs : List Visit} :
    Clashing vs ↔ ∃ className property, ∃ t ∈ typesOf className property vs,
      ∃ u ∈ typesOf className property vs,
        t ≠ u ∧ t.isFallback = false ∧ u.isFallback = false := by
  constructor
  · rintro ⟨a, ha, b, hb, hc, hp, h⟩
    exact ⟨b.className, b.property, a.type, mem_typesOf.mpr ⟨a, ha, hc, hp, rfl⟩, b.type,
      mem_typesOf.mpr ⟨b, hb, rfl, rfl, rfl⟩, h⟩
  · rintro ⟨className, property, t, ht, u, hu, h⟩
    obtain ⟨a, ha, hac, hap, rfl⟩ := mem_typesOf.mp ht
    obtain ⟨b, hb, hbc, hbp, rfl⟩ := mem_typesOf.mp hu
    exact ⟨a, ha, b, hb, hac.trans hbc.symm, hap.trans hbp.symm, h⟩

section Congr

variable {vs ws : List Visit}
  (h : ∀ className property t,
    t ∈ typesOf className property vs ↔ t ∈ typesOf className property ws)

include h

theorem clashing_congr : Clashing vs ↔ Clashing ws := by
  simp only [clashing_iff_types, h]

/-- Without a clash strict mode settles on the same types, apart from fallbacks. -/
theorem settled_congr (hclear : ¬ Clashing vs) (className property : Points) :
    settled true (typesOf className property vs) = settled true (typesOf className property ws) ∨
      ∃ t u, settled true (typesOf className property vs) = some t ∧
        settled true (typesOf className property ws) = some u ∧
        t.isFallback = true ∧ u.isFallback = true := by
  have hclear' : ¬ Clashing ws := fun hw => hclear ((clashing_congr h).mpr hw)
  cases hs : settled true (typesOf className property vs) with
  | none =>
    have hnil : typesOf className property ws = [] := by
      rw [List.eq_nil_iff_forall_not_mem]
      intro t ht
      have hmem := (h className property t).mpr ht
      rw [settled_eq_none_iff.mp hs] at hmem
      cases hmem
    rw [hnil]
    exact Or.inl rfl
  | some t =>
    have hmem := (h className property t).mp (mem_of_settled hs)
    cases ht : t.isFallback with
    | false => exact Or.inl (settled_strict hclear' hmem ht).symm
    | true =>
      cases hs' : settled true (typesOf className property ws) with
      | none =>
        rw [settled_eq_none_iff.mp hs'] at hmem
        cases hmem
      | some u =>
        cases hu : u.isFallback with
        | true => exact Or.inr ⟨t, u, rfl, rfl, ht, hu⟩
        | false =>
          -- the other visits show `u` too, and would have settled on it
          have hmem' := (h className property u).mpr (mem_of_settled hs')
          rw [settled_strict hclear hmem' hu] at hs
          cases hs
          rw [ht] at hu
          cases hu

end Congr

/-! ## Reordered documents -/

/-- The visits of reordered documents show the same types, when there are no nulls. -/
theorem typesOf_reordered {members others : List (Points × Document)}
    (h : Reordered (.object members) (.object others)) {root : Points}
    (hn : ∀ className property,
      .visit className property .null ∉ documentTour singular root members)
    (className property : Points) (t : FieldType) :
    t ∈ typesOf className property (visitsAfter singular [] (documentTour singular root members)) ↔
      t ∈ typesOf className property
        (visitsAfter singular [] (documentTour singular root others)) := by
  have hp := marks_documentTour singular h root
  have hn' : ∀ className property,
      .visit className property .null ∉ documentTour singular root others := by
    rw [no_null_iff_mark] at hn ⊢
    intro className property hm
    exact hn className property (hp.mem_iff.mpr hm)
  rw [mem_typesOf_iff_mark hn, mem_typesOf_iff_mark hn', hp.mem_iff]

/-- The same classes, each with the same properties in the same order. -/
def SameContent (r r' : Registry) : Prop :=
  (∀ className, className ∈ r.names ↔ className ∈ r'.names) ∧
    ∀ className, r.propertyNames? className = r'.propertyNames? className

/-- The same types, apart from fallbacks that take the place of each other. -/
def SameTypes (r r' : Registry) : Prop :=
  ∀ className property, r.type? className property = r'.type? className property ∨
    ∃ t u, r.type? className property = some t ∧ r'.type? className property = some u ∧
      t.isFallback = true ∧ u.isFallback = true

private theorem sameContent_reordered {members others : List (Points × Document)}
    (h : Reordered (.object members) (.object others)) {root : Points} {d d' : Draft}
    (hd : follow singular false (documentTour singular root members) {} = .ok d)
    (hd' : follow singular false (documentTour singular root others) {} = .ok d') :
    SameContent d.registry.finalize d'.registry.finalize := by
  have hp := marks_documentTour singular h root
  have hentered : ∀ className, .enter className ∈ documentTour singular root members ↔
      .enter className ∈ documentTour singular root others := by
    intro className
    rw [enter_mem_iff_mark, enter_mem_iff_mark, hp.mem_iff]
  have hvisited : ∀ className property,
      (∃ v, .visit className property v ∈ documentTour singular root members) ↔
        ∃ v, .visit className property v ∈ documentTour singular root others := by
    intro className property
    simp only [visited_iff_mark singular, hp.mem_iff]
  constructor
  · intro className
    rw [Registry.names_finalize, Registry.names_finalize, mem_names_of_follow hd,
      mem_names_of_follow hd', hentered]
  · exact propertyNames?_of_follow (prepared_documentTour singular root members)
      (prepared_documentTour singular root others) hd hd' hentered hvisited

/-- The builds of reordered documents have the same classes, each with the same
properties in the same order. Without nulls strict mode meets a conflict in both
or in none, and when it takes both it gives each field the same type, or two
fallbacks. -/
theorem build_reordered (singular : Points → Points) (b : Builder) (root : Points)
    {document document' : Document} (h : Reordered document document') :
    SameContent (Builder.build singular { b with strict := false } root document).registry
      (Builder.build singular { b with strict := false } root document').registry ∧
    (WithoutNulls singular root document →
      ((∃ c, (Builder.build singular { b with strict := true } root document).fault =
          some (.conflict c)) ↔
        ∃ c, (Builder.build singular { b with strict := true } root document').fault =
          some (.conflict c)) ∧
      ((Builder.build singular { b with strict := true } root document).fault = none →
        (Builder.build singular { b with strict := true } root document').fault = none →
        SameTypes (Builder.build singular { b with strict := true } root document).registry
          (Builder.build singular { b with strict := true } root document').registry)) := by
  by_cases hw : Walkable root document
  · obtain ⟨hroot, members, rfl⟩ := hw
    obtain ⟨others, rfl⟩ := h.object_right
    have hp := prepared_documentTour singular root members
    have hp' := prepared_documentTour singular root others
    constructor
    · obtain ⟨d, hd⟩ := follow_lenient singular (documentTour singular root members) {}
      obtain ⟨d', hd'⟩ := follow_lenient singular (documentTour singular root others) {}
      simp only [build_object _ hroot, buildObject_eq, hd, hd']
      exact sameContent_reordered h hd hd'
    · intro hn
      have htypes := typesOf_reordered h (noNull_of_withoutNulls hn)
      constructor
      · rw [exists_conflict_iff, exists_conflict_iff, buildVisits_object false hroot,
          buildVisits_object false hroot, visits_lenient, visits_lenient]
        exact clashing_congr htypes
      · intro hs hs' className property
        rw [build_object _ hroot] at hs hs'
        obtain ⟨d, hd, hr⟩ := buildObject_succeeds hs
        obtain ⟨d', hd', hr'⟩ := buildObject_succeeds hs'
        rw [build_object _ hroot, build_object _ hroot, hr, hr', type?_of_follow hp hd,
          type?_of_follow hp' hd']
        exact settled_congr htypes (not_clashing_of_follow hp hd) className property
  · have hw' : ¬ Walkable root document' := fun hw' => hw ((h.walkable_iff root).mpr hw')
    rw [(build_refused _ hw).1, (build_refused _ hw').1]
    -- both builders are refused and keep the classes they had
    refine ⟨⟨fun _ => Iff.rfl, fun _ => rfl⟩, fun _ => ⟨?_, ?_⟩⟩
    · rw [exists_conflict_iff, exists_conflict_iff, buildVisits_refused false hw,
        buildVisits_refused false hw']
    · intro hs
      exact absurd (walkable_of_build hs) hw

/-- A class in two places, with an empty array first. -/
def emptyFirst : Document :=
  .object [("p", .object [("v", .int 1), ("w", .array [])]),
    ("q", .object [("p", .object [("w", .array [.array []]), ("v", .int 2)])])]

/-- The same document with the empty array last. -/
def emptyLast : Document :=
  .object [("q", .object [("p", .object [("v", .int 2), ("w", .array [.array []])])]),
    ("p", .object [("v", .int 1), ("w", .array [])])]

/-- The order of the keys decides which of two fallbacks comes last. -/
theorem sample_build_reordered :
    Reordered emptyFirst emptyLast ∧ WithoutNulls Naming.singular "Root" emptyFirst ∧
    (Builder.build Naming.singular { strict := true } "Root" emptyFirst).registry.type? "p" "w" =
      some (list untyped) ∧
    (Builder.build Naming.singular { strict := true } "Root" emptyLast).registry.type? "p" "w" =
      some (list anything) ∧
    SameTypes (Builder.build Naming.singular { strict := true } "Root" emptyFirst).registry
      (Builder.build Naming.singular { strict := true } "Root" emptyLast).registry := by
  have hinner : Reordered (.object [("w", .array [.array []]), ("v", .int 2)])
      (.object [("v", .int 2), ("w", .array [.array []])]) := .keys (.swap _ _ _)
  have h : Reordered emptyFirst emptyLast :=
    (Reordered.keys (.swap _ _ _)).trans
      (.member [] [("p", .object [("v", .int 1), ("w", .array [])])] "q" (.member [] [] "p" hinner))
  have hn : WithoutNulls Naming.singular "Root" emptyFirst := by
    intro members he
    cases he
    simp [walkedObjects, objectsIn, objectsOf]
  have hb : ∀ members, Builder.build Naming.singular { strict := true } "Root" (.object members) =
      Builder.buildObject Naming.singular true "Root" members := fun _ => rfl
  have hs : (Builder.build Naming.singular { strict := true } "Root" emptyFirst).fault = none := by
    rw [emptyFirst, hb, buildObject_eq]
    decide +kernel
  have hs' : (Builder.build Naming.singular { strict := true } "Root" emptyLast).fault = none := by
    rw [emptyLast, hb, buildObject_eq]
    decide +kernel
  refine ⟨h, hn, ?_, ?_, ((build_reordered Naming.singular {} "Root" h).2 hn).2 hs hs'⟩
  · rw [emptyFirst, hb, buildObject_eq]
    decide +kernel
  · rw [emptyLast, hb, buildObject_eq]
    decide +kernel

end SampleSchema.Infer
