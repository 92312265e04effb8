import SampleSchema.Naming.Singular
import SampleSchema.Proofs.Infer.History
/-!
Which classes and properties a document has, told from its objects.

* `walkedObjects`: the objects that belong to a class, in the order in which
  they begin;
* `entered_documentTour`, `visit_mem_documentTour`: a tour enters these objects
  and visits their members;
* `build_content`: a build that succeeds has the classes of these objects, and
  each class has the keys of its objects, sorted.
-/

namespace SampleSchema.Infer

open Json Schema Text

variable {singular : Points → Points}

mutual
/-- The objects in the values of some members, with their classes. -/
def objectsIn (singular : Points → Points) :
    List (Points × Document) → List (Points × List (Points × Document))
  | [] => []
  | (property, v) :: rest => objectsOf singular property v ++ objectsIn singular rest

/-- The object that a value holds for a property, and those in it. An object
belongs to the class of its key, the first element of an array to the class of
the singular of its key, and no other value is looked at. -/
def objectsOf (singular : Points → Points) (property : Points) :
    Document → List (Points × List (Points × Document))
  | .object members => (property, members) :: objectsIn singular members
  | .array (.object members :: _) => (singular property, members) :: objectsIn singular members
  | _ => []
end

/-- The objects of a document that belong to a class, with their classes. The
root object belongs to the class of its name. -/
def walkedObjects (singular : Points → Points) (root : Points)
    (members : List (Points × Document)) :
    List (Points × List (Points × Document)) :=
  (root, members) :: objectsIn singular members

theorem objectsOf_eq (property : Points) (v : Document) :
    objectsOf singular property v =
      match nested? singular property v with
      | some (className, members) => (className, members) :: objectsIn singular members
      | none => [] := by
  fun_cases nested? singular property v with
  | case1 members => rw [objectsOf]
  | case2 members tail => rw [objectsOf]
  | case3 v ho ha => rw [objectsOf] <;> assumption

/-- A tour enters the walked objects in the order in which they begin. -/
theorem entered_tour (className : Points) (members : List (Points × Document)) :
    entered (tour singular className members) = (objectsIn singular members).map (·.1) := by
  induction className, members using members_induction with
  | nil className => rw [tour, objectsIn]; rfl
  | nested className property v rest inner members hn ihm ih =>
    rw [tour_nested hn, objectsIn, objectsOf_eq, hn]
    simp [ihm, ih]
  | flat className property v rest hn ih =>
    rw [tour_flat hn, objectsIn, objectsOf_eq, hn]
    simp [ih]

theorem entered_documentTour (root : Points) (members : List (Points × Document)) :
    entered (documentTour singular root members) =
      (walkedObjects singular root members).map (·.1) := by
  rw [documentTour, entered_enter, entered_tour]
  rfl

/-- A tour visits the members of the walked objects. -/
theorem visit_mem_tour (className property : Points) (v : Document) (outer : Points)
    (members : List (Points × Document)) :
    .visit className property v ∈ tour singular outer members ↔
      ∃ ms, (className, ms) ∈ walkedObjects singular outer members ∧ (property, v) ∈ ms := by
  unfold walkedObjects
  induction outer, members using members_induction with
  | nil outer => rw [tour, objectsIn]; simp
  | nested outer key value rest inner members hn ihm ih =>
    rw [tour_nested hn, objectsIn, objectsOf_eq, hn]
    simp only [List.mem_cons, List.mem_append, ihm, ih, reduceCtorEq, Step.visit.injEq,
      Prod.mk.injEq, List.cons_append]
    grind
  | flat outer key value rest hn ih =>
    rw [tour_flat hn, objectsIn, objectsOf_eq, hn]
    simp only [List.mem_cons, ih, Step.visit.injEq, Prod.mk.injEq, List.nil_append]
    grind

theorem visit_mem_documentTour (className property : Points) (v : Document) (root : Points)
    (members : List (Points × Document)) :
    .visit className property v ∈ documentTour singular root members ↔
      ∃ ms, (className, ms) ∈ walkedObjects singular root members ∧ (property, v) ∈ ms := by
  rw [documentTour, List.mem_cons, ← visit_mem_tour]
  simp

/-- A class has observed the keys of its objects. -/
theorem observed_mem_walkedObjects {strict : Bool} {root : Points}
    {members : List (Points × Document)} {d : Draft}
    (h : follow singular strict (documentTour singular root members) {} = .ok d) {c : InferredClass}
    (hc : c ∈ d.registry.classes) (property : Points) :
    property ∈ c.observed.map (·.name) ↔
      ∃ ms, (c.name, ms) ∈ walkedObjects singular root members ∧ property ∈ ms.map (·.1) := by
  have hn := nodup_names_of_follow h
  have hd := distinct_of_follow h
  calc
    property ∈ c.observed.map (·.name)
      ↔ ∃ f, d.registry.observed? c.name property = some f := by
        simp only [List.mem_map, Registry.observed?_eq_some_iff hn hd hc]
    _ ↔ ∃ v, .visit c.name property v ∈ documentTour singular root members :=
        observed_of_follow h (prepared_documentTour singular root members) c.name property
    _ ↔ ∃ v ms, (c.name, ms) ∈ walkedObjects singular root members ∧ (property, v) ∈ ms := by
        simp only [visit_mem_documentTour]
    _ ↔ ∃ ms, (c.name, ms) ∈ walkedObjects singular root members ∧ property ∈ ms.map (·.1) := by
        rw [exists_comm]
        simp

/-- A build that succeeds has the classes of the walked objects, in the order in
which their first objects begin. Each class has the keys of all its objects,
without repeats and in the order of their code points. -/
theorem build_content (b : Builder) (root : Points) (document : Document)
    (h : (b.build singular root document).fault = none) :
    ∃ members, document = .object members ∧
      (b.build singular root document).registry.names =
        ((walkedObjects singular root members).map (·.1)).eraseDups ∧
      ∀ c ∈ (b.build singular root document).registry.classes,
        (c.fields.map (·.name)).Pairwise (· < ·) ∧
        ∀ property, property ∈ c.fields.map (·.name) ↔
          ∃ ms, (c.name, ms) ∈ walkedObjects singular root members ∧ property ∈ ms.map (·.1) := by
  obtain ⟨members, rfl, hb⟩ := build_succeeds h
  rw [hb] at h ⊢
  obtain ⟨d, hd, hr⟩ := buildObject_succeeds h
  rw [hr]
  refine ⟨members, rfl, ?_, ?_⟩
  · rw [Registry.names_finalize, names_of_follow hd, entered_documentTour]
  · intro c hc
    obtain ⟨a, ha, rfl⟩ := Registry.mem_finalize hc
    refine ⟨?_, ?_⟩
    · rw [List.pairwise_map]
      exact InferredField.sortByName_strict (distinct_of_follow hd a ha)
    · intro property
      have hp := ((InferredField.sortByName_perm a.observed).map (·.name)).mem_iff (a := property)
      exact hp.trans (observed_mem_walkedObjects hd ha property)

theorem sample_build_content :
    (Builder.build Naming.singular { strict := true } "node" (.object sampleMembers)).fault = none ∧
    sampleClass ∈
      (Builder.build Naming.singular { strict := true } "node"
        (.object sampleMembers)).registry.classes ∧
    ∀ property, property ∈ sampleClass.fields.map (·.name) ↔
      ∃ ms, ((("node" : Points), ms) ∈ walkedObjects Naming.singular "node" sampleMembers) ∧
        property ∈ ms.map (·.1) := by
  have hb : Builder.build Naming.singular { strict := true } "node" (.object sampleMembers) =
      Builder.buildObject Naming.singular true "node" sampleMembers := rfl
  have h : (Builder.build Naming.singular { strict := true } "node" (.object sampleMembers)).fault =
      none := by
    rw [hb, buildObject_eq]
    decide +kernel
  have hc : sampleClass ∈
      (Builder.build Naming.singular { strict := true } "node"
        (.object sampleMembers)).registry.classes := by
    rw [hb, buildObject_eq]
    decide +kernel
  obtain ⟨members, hm, _, hcontent⟩ := build_content _ _ _ h
  cases hm
  exact ⟨h, hc, (hcontent sampleClass hc).2⟩

end SampleSchema.Infer
