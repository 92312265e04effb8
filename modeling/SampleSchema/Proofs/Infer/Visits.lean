import SampleSchema.Proofs.Infer.History
/-!
The visits of a walk, each with the type that its value shows at that moment.

* `visits`, `buildVisits`: the visits that a walk and a build make;
* `visits_eq_after`: a walk that is not stopped makes the visits `visitsAfter`
  tells from its steps alone;
* `settled`: the type that a property keeps after its visits;
* `observedType_of_follow`: the observed types are the settled ones, in both
  modes.
-/

namespace SampleSchema.Infer

open Json Schema Text FieldType

variable {singular : Points → Points}

/-- A property of a class is visited with a value, which shows a type. -/
structure Visit where
  className : Points
  property : Points
  value : Document
  type : FieldType

/-- Two visits of one property of a class show different types, of which none
is a fallback. -/
def Visit.Conflicts (a b : Visit) : Prop :=
  a.className = b.className ∧ a.property = b.property ∧ a.type ≠ b.type ∧
    a.type.isFallback = false ∧ b.type.isFallback = false

instance (a b : Visit) : Decidable (a.Conflicts b) :=
  inferInstanceAs (Decidable (_ ∧ _ ∧ _ ∧ _ ∧ _))

/-- The visit that a step makes. `isClass` tells which classes exist. -/
def Step.visit? (singular : Points → Points) (isClass : Points → Bool) : Step → Option Visit
  | .enter _ => none
  | .visit className property v =>
    some ⟨className, property, v, resolve singular isClass property v⟩

/-- The visits of a walk over these steps. A conflict ends the walk. -/
def visits (singular : Points → Points) (strict : Bool) : List Step → Draft → List Visit
  | [], _ => []
  | s :: rest, d =>
      (s.visit? singular d.registry.contains).toList ++
        match d.take singular strict s with
        | .ok d => visits singular strict rest d
        | .error _ => []

/-- The visits that the build of a document makes. A document that is refused
is not walked. -/
def buildVisits (singular : Points → Points) (strict : Bool) (root : Points) (document : Document) :
    List Visit :=
  if root.isEmpty then []
  else match document with
    | .object members => visits singular strict (documentTour singular root members) {}
    | _ => []

/-! ## Visits told from the steps -/

/-- The visits in some steps, after the steps `before`. -/
def visitsAfter (singular : Points → Points) (before : List Step) : List Step → List Visit
  | [] => []
  | s :: rest =>
    (s.visit? singular (entered before).contains).toList ++
      visitsAfter singular (before ++ [s]) rest

theorem visitsAfter_append (before front back : List Step) :
    visitsAfter singular before (front ++ back) =
      visitsAfter singular before front ++ visitsAfter singular (before ++ front) back := by
  induction front generalizing before with
  | nil => simp [visitsAfter]
  | cons s front ih => simp [visitsAfter, ih]

@[simp] theorem visitsAfter_snoc_enter (before steps : List Step) (className : Points) :
    visitsAfter singular before (steps ++ [.enter className]) =
      visitsAfter singular before steps := by
  rw [visitsAfter_append]
  exact List.append_nil _

theorem visitsAfter_snoc_visit (steps : List Step) (className property : Points) (v : Document) :
    visitsAfter singular [] (steps ++ [.visit className property v]) =
      visitsAfter singular [] steps ++
        [⟨className, property, v, shown singular steps property v⟩] := by
  rw [visitsAfter_append]
  rfl

/-- A walk that is not stopped makes the visits that its steps tell. -/
theorem visits_eq_after {strict : Bool} {before steps : List Step} {d d' : Draft}
    (hb : follow singular strict before {} = .ok d) (h : follow singular strict steps d = .ok d') :
    visits singular strict steps d = visitsAfter singular before steps := by
  induction steps generalizing before d with
  | nil => rfl
  | cons s steps ih =>
    rw [follow_cons] at h
    cases hd : d.take singular strict s with
    | error stopped => rw [hd] at h; cases h
    | ok next =>
      rw [hd] at h
      have hnext : follow singular strict (before ++ [s]) {} = .ok next := by
        simp [follow_append, hb, Except.bind, hd]
      rw [visits, visitsAfter, contains_of_follow hb, hd, ← ih hnext h]

theorem visits_eq {strict : Bool} {steps : List Step} {d : Draft}
    (h : follow singular strict steps {} = .ok d) :
    visits singular strict steps {} = visitsAfter singular [] steps :=
  visits_eq_after rfl h

theorem visits_lenient (steps : List Step) :
    visits singular false steps {} = visitsAfter singular [] steps := by
  obtain ⟨d, hd⟩ := follow_lenient singular steps {}
  exact visits_eq hd

theorem of_mem_visitsAfter {before steps : List Step} {w : Visit}
    (h : w ∈ visitsAfter singular before steps) :
    .visit w.className w.property w.value ∈ steps ∧
      ∃ isClass, w.type = resolve singular isClass w.property w.value := by
  induction steps generalizing before with
  | nil => cases h
  | cons s steps ih =>
    rcases List.mem_append.mp h with hs | hs
    · cases s with
      | enter className => cases hs
      | visit className property v =>
        cases List.mem_singleton.mp hs
        exact ⟨List.mem_cons_self .., _, rfl⟩
    · obtain ⟨hm, hc⟩ := ih hs
      exact ⟨List.mem_cons_of_mem _ hm, hc⟩

theorem exists_visit (before : List Step) {steps : List Step} {className property : Points}
    {v : Document} (h : .visit className property v ∈ steps) :
    ∃ isClass, ⟨className, property, v, resolve singular isClass property v⟩ ∈
      visitsAfter singular before steps := by
  induction steps generalizing before with
  | nil => cases h
  | cons s steps ih =>
    rcases List.mem_cons.mp h with rfl | h
    · exact ⟨_, List.mem_append_left _ (List.mem_singleton.mpr rfl)⟩
    · obtain ⟨isClass, hm⟩ := ih (before ++ [s]) h
      exact ⟨isClass, List.mem_append_right _ hm⟩

/-! ## The type that a property keeps -/

def typesOf (className property : Points) (vs : List Visit) : List FieldType :=
  (vs.filter fun w => w.className = className ∧ w.property = property).map (·.type)

theorem mem_typesOf {className property : Points} {vs : List Visit} {t : FieldType} :
    t ∈ typesOf className property vs ↔
      ∃ w ∈ vs, w.className = className ∧ w.property = property ∧ w.type = t := by
  simp [typesOf, and_assoc]

private theorem typesOf_append (className property : Points) (vs ws : List Visit) :
    typesOf className property (vs ++ ws) =
      typesOf className property vs ++ typesOf className property ws := by
  simp [typesOf]

/-- The type that a property has after it shows another type. -/
def keep (strict : Bool) (old? : Option FieldType) (new : FieldType) : FieldType :=
  match old? with
  | some old => if strict && !old.isFallback then old else new
  | none => new

/-- The type that a property has after it has shown these types: the last of
them, or in strict mode the first that is no fallback, if there is one. -/
def settled (strict : Bool) (types : List FieldType) : Option FieldType :=
  if strict then (types.find? fun t => !t.isFallback).or types.getLast? else types.getLast?

private theorem settled_snoc (strict : Bool) (types : List FieldType) (t : FieldType) :
    settled strict (types ++ [t]) = some (keep strict (settled strict types) t) := by
  cases strict with
  | false => cases h : types.getLast? <;> simp [settled, keep, h]
  | true =>
    cases hf : types.find? fun u => !u.isFallback with
    | some u =>
      have hu : u.isFallback = false := by simpa using List.find?_some hf
      simp [settled, keep, hf, hu]
    | none =>
      have hfallback : ∀ u ∈ types, u.isFallback = true := by simpa using hf
      cases hl : types.getLast? with
      | none => cases ht : t.isFallback <;> simp [settled, keep, hf, hl, ht]
      | some u =>
        have hu := hfallback u (List.mem_of_getLast? hl)
        cases ht : t.isFallback <;> simp [settled, keep, hf, hl, ht, hu]

/-- A fallback at the end counts outside strict mode only. -/
example : settled true [list anything, integer, anything] = some integer ∧
    settled false [list anything, integer, anything] = some anything := by decide

theorem settled_eq_none_iff {strict : Bool} {types : List FieldType} :
    settled strict types = none ↔ types = [] := by
  cases strict with
  | false => exact List.getLast?_eq_none_iff
  | true =>
    rw [settled, if_pos rfl, Option.or_eq_none_iff, List.getLast?_eq_none_iff]
    constructor
    · exact And.right
    · rintro rfl
      exact ⟨rfl, rfl⟩

theorem mem_of_settled {strict : Bool} {types : List FieldType} {t : FieldType}
    (h : settled strict types = some t) : t ∈ types := by
  cases strict with
  | false => exact List.mem_of_getLast? h
  | true =>
    rcases Option.or_eq_some_iff.mp h with hf | ⟨_, hl⟩
    · exact List.mem_of_find?_eq_some hf
    · exact List.mem_of_getLast? hl

/-- A visit changes the type of one property of one class. -/
theorem observedType_of_visit {strict : Bool} {d d' : Draft} {className property : Points}
    {v : Document} (hc : className ∈ d.registry.names)
    (h : d.take singular strict (.visit className property v) = .ok d')
    (other otherProperty : Points) :
    (d'.registry.observed? other otherProperty).map (·.type) =
      if className = other ∧ property = otherProperty then
        some (keep strict ((d.registry.observed? className property).map (·.type))
          (resolve singular d.registry.contains property v))
      else (d.registry.observed? other otherProperty).map (·.type) := by
  have ho := visit_observation singular strict d className property v
  rw [h] at ho
  cases ho with
  | first hold =>
    simp only [Draft.store, Registry.observed?_put hc, hold]
    split <;> rfl
  | same old hold he =>
    simp only [Draft.store, Registry.observed?_put hc, hold, Option.map_some, keep, he, ite_self]
    split <;> rfl
  | changed old hold hne hfallback =>
    have hkeep : (strict && !old.type.isFallback) = false := by
      cases strict with
      | false => rfl
      | true => simp [hfallback rfl]
    simp only [Draft.store, Draft.report, Registry.observed?_put hc, hold, Option.map_some, keep,
      hkeep]
    split <;> rfl
  | kept old hold hne hs hconcrete =>
    split
    · rename_i he
      obtain ⟨rfl, rfl⟩ := he
      simp [Draft.report, hold, keep, hs, hconcrete]
    · rfl

/-- The observed types are those on which the visits settle. -/
theorem observedType_of_follow {strict : Bool} {steps : List Step} {d : Draft}
    (hp : Prepared singular [] steps) (h : follow singular strict steps {} = .ok d)
    (className property : Points) :
    (d.registry.observed? className property).map (·.type) =
      settled strict (typesOf className property (visitsAfter singular [] steps)) := by
  revert className property
  refine prepared_invariant (motive := fun done d => ∀ className property,
    (d.registry.observed? className property).map (·.type) =
      settled strict (typesOf className property (visitsAfter singular [] done))) ?_ ?_ hp h
  · intro className property
    cases strict <;> rfl
  · intro done s d d' hdone _ hready ih hd className property
    cases s with
    | enter entering =>
      cases hd
      rw [registry_enter, Registry.observed?_create, visitsAfter_snoc_enter]
      exact ih className property
    | visit visited visitedProperty v =>
      have hmem : visited ∈ d.registry.names := (mem_names_of_follow hdone visited).mpr hready.1
      rw [observedType_of_visit hmem hd, visitsAfter_snoc_visit, typesOf_append,
        contains_of_follow hdone]
      by_cases he : visited = className ∧ visitedProperty = property
      · obtain ⟨rfl, rfl⟩ := he
        rw [if_pos ⟨rfl, rfl⟩, ih, ← settled_snoc]
        simp [typesOf, shown]
      · rw [if_neg he, ih]
        simp [typesOf, he]

/-! ## Builds -/

/-- Only an object under a name is walked. -/
def Walkable (root : Points) (document : Document) : Prop :=
  root ≠ "" ∧ ∃ members, document = .object members

theorem build_object (b : Builder) {root : Points} (hroot : root ≠ "")
    (members : List (Points × Document)) :
    b.build singular root (.object members) =
      Builder.buildObject singular b.strict root members := by
  simp [Builder.build, Points.isEmpty_eq_false hroot]

theorem buildVisits_object (strict : Bool) {root : Points} (hroot : root ≠ "")
    (members : List (Points × Document)) :
    buildVisits singular strict root (.object members) =
      visits singular strict (documentTour singular root members) {} := by
  simp [buildVisits, Points.isEmpty_eq_false hroot]

/-- A document that is not walked is refused, and the builder keeps its classes. -/
theorem build_refused (b : Builder) {root : Points} {document : Document}
    (h : ¬ Walkable root document) :
    (b.build singular root document).registry = b.registry ∧
      ∃ fault, (b.build singular root document).fault = some fault ∧ ∀ c, fault ≠ .conflict c := by
  unfold Builder.build
  split
  · exact ⟨rfl, _, rfl, fun c hc => nomatch hc⟩
  · rename_i hroot
    cases document with
    | object members => exact absurd ⟨by simpa using hroot, members, rfl⟩ h
    | _ => exact ⟨rfl, _, rfl, fun c hc => nomatch hc⟩

theorem walkable_of_build {b : Builder} {root : Points} {document : Document}
    (h : (b.build singular root document).fault = none) : Walkable root document := by
  refine Classical.byContradiction fun hw => ?_
  obtain ⟨_, fault, hf, _⟩ := build_refused b hw
  rw [h] at hf
  cases hf

theorem buildVisits_refused (strict : Bool) {root : Points} {document : Document}
    (h : ¬ Walkable root document) : buildVisits singular strict root document = [] := by
  unfold buildVisits
  split
  · rfl
  · rename_i hroot
    cases document with
    | object members => exact absurd ⟨by simpa using hroot, members, rfl⟩ h
    | _ => rfl

/-- A build fails with the conflict that stops its walk. -/
theorem buildObject_conflict_iff (strict : Bool) (root : Points)
    (members : List (Points × Document)) (c : Conflict) :
    (Builder.buildObject singular strict root members).fault = some (.conflict c) ↔
      ∃ stopped, follow singular strict (documentTour singular root members) {} = .error stopped ∧
        stopped.conflict = c := by
  rw [buildObject_eq]
  cases follow singular strict (documentTour singular root members) {} with
  | ok d => simp
  | error stopped => simp

end SampleSchema.Infer
