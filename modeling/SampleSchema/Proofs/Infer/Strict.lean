import SampleSchema.Naming.Singular
import SampleSchema.Proofs.Infer.Conflict
/-!
A strict build that goes through, beside the build outside strict mode.

* `settled_fallback`, `settled_modes`: what the two modes make of the same
  types;
* `clashing_of_warning`: a warning in the log comes from two visits that
  conflict;
* `propertyNames?_of_follow`: two walks over the same classes and properties
  give the same classes the same properties;
* `build_strict_refines`: the strict build has the same classes and properties,
  and where the types differ it has one that is no fallback.
-/

namespace SampleSchema.Infer

open Json Schema Text FieldType

variable {singular : Points → Points}

/-! ## The types -/

/-- In strict mode a fallback is kept only when nothing else was shown, and then
it is the last type that was shown. -/
theorem settled_fallback {types : List FieldType} {t : FieldType}
    (h : settled true types = some t) (ht : t.isFallback = true) :
    (∀ u ∈ types, u.isFallback = true) ∧ types.getLast? = some t := by
  rcases Option.or_eq_some_iff.mp h with hf | ⟨hf, hl⟩
  · have hconcrete := List.find?_some hf
    simp [ht] at hconcrete
  · exact ⟨by simpa using hf, hl⟩

/-- Without a clash the two modes differ only where strict mode keeps a type
that a fallback replaces outside it. -/
theorem settled_modes {vs : List Visit} (h : ¬ Clashing vs) (className property : Points) :
    settled true (typesOf className property vs) =
        settled false (typesOf className property vs) ∨
      ∃ t u, settled true (typesOf className property vs) = some t ∧
        settled false (typesOf className property vs) = some u ∧
        t.isFallback = false ∧ u.isFallback = true := by
  cases hl : (typesOf className property vs).getLast? with
  | none =>
    rw [List.getLast?_eq_none_iff.mp hl]
    exact Or.inl rfl
  | some u =>
    cases hu : u.isFallback with
    | false => exact Or.inl ((settled_strict h (List.mem_of_getLast? hl) hu).trans hl.symm)
    | true =>
      cases hf : (typesOf className property vs).find? fun t => !t.isFallback with
      | none => exact Or.inl (by simp [settled, hf])
      | some t =>
        have ht : t.isFallback = false := by simpa using List.find?_some hf
        exact Or.inr ⟨t, u, by simp [settled, hf], hl, ht, hu⟩

/-- The types that a build gives are those on which its visits settle. -/
theorem type?_of_follow {strict : Bool} {steps : List Step} {d : Draft}
    (hp : Prepared singular [] steps)
    (h : follow singular strict steps {} = .ok d) (className property : Points) :
    d.registry.finalize.type? className property =
      settled strict (typesOf className property (visitsAfter singular [] steps)) := by
  rw [Registry.type?_finalize (distinct_of_follow h), observedType_of_follow hp h]

/-! ## The log -/

theorem Clashing.append {vs : List Visit} (h : Clashing vs) (ws : List Visit) :
    Clashing (vs ++ ws) := by
  obtain ⟨a, ha, b, hb, hab⟩ := h
  exact ⟨a, List.mem_append_left _ ha, b, List.mem_append_left _ hb, hab⟩

private theorem level_of_mem_enter {d : Draft} {className : Points} {e : Event}
    (h : e ∈ (d.enter className).log) : e ∈ d.log ∨ e.level = .debug := by
  unfold Draft.enter at h
  split at h
  · rcases Array.mem_push.mp h with h | rfl
    · exact Or.inl h
    · exact Or.inr rfl
  · rcases Array.mem_push.mp h with h | rfl
    · exact Or.inl h
    · exact Or.inr rfl

private theorem concrete_of_changed_warning {className property : Points} {before after : FieldType}
    (h : (Event.changed className property before after).level = .warning) :
    before.isFallback = false ∧ after.isFallback = false := by
  cases hb : before.isFallback <;> cases ha : after.isFallback <;>
    simp [Event.level, hb, ha] at h ⊢

/-- A visit that is reported with a warning meets a type that it conflicts with. -/
theorem warning_of_visit {strict : Bool} {d d' : Draft} {className property : Points} {v : Document}
    (h : d.take singular strict (.visit className property v) = .ok d') {e : Event}
    (he : e ∈ d'.log) (hw : e.level = .warning) :
    e ∈ d.log ∨ ∃ old, d.registry.observed? className property = some old ∧
      old.type ≠ resolve singular d.registry.contains property v ∧ old.type.isFallback = false ∧
      (resolve singular d.registry.contains property v).isFallback = false := by
  have ho := visit_observation singular strict d className property v
  rw [h] at ho
  cases ho with
  | first => exact Or.inl he
  | same => exact Or.inl he
  | changed old hold hne =>
    rcases Array.mem_push.mp he with he | rfl
    · exact Or.inl he
    · exact Or.inr ⟨old, hold, hne, concrete_of_changed_warning hw⟩
  | kept =>
    rcases Array.mem_push.mp he with he | rfl
    · exact Or.inl he
    · cases hw

/-- A warning in the log comes from two visits that conflict. -/
theorem clashing_of_warning {strict : Bool} {steps : List Step} {d : Draft}
    (hp : Prepared singular [] steps) (h : follow singular strict steps {} = .ok d) {e : Event}
    (he : e ∈ d.log) (hw : e.level = .warning) : Clashing (visitsAfter singular [] steps) := by
  revert e
  refine prepared_invariant (motive := fun done d => ∀ {e}, e ∈ d.log →
    e.level = .warning → Clashing (visitsAfter singular [] done)) ?_ ?_ hp h
  · intro e he
    simp at he
  · intro done s d d' hdone hfront _ ih hd e he hw
    cases s with
    | enter className =>
      cases hd
      rw [visitsAfter_snoc_enter]
      rcases level_of_mem_enter he with he | hl
      · exact ih he hw
      · rw [hl] at hw
        cases hw
    | visit className property v =>
      rw [visitsAfter_snoc_visit]
      rcases warning_of_visit hd he hw with he | ⟨old, hold, hne, hfo, hfn⟩
      · exact (ih he hw).append _
      · obtain ⟨a, ha, _, hconflict⟩ := exists_conflicting hfront hdone hold hne hfo hfn
        exact ⟨a, List.mem_append_left _ ha, _,
          List.mem_append_right _ (List.mem_singleton.mpr rfl), hconflict⟩

/-! ## The properties -/

/-- Walks that enter the same classes and visit the same properties give each
class the same properties. -/
theorem propertyNames?_of_follow {strict strict' : Bool} {steps steps' : List Step}
    {d d' : Draft} (hp : Prepared singular [] steps) (hp' : Prepared singular [] steps')
    (h : follow singular strict steps {} = .ok d) (h' : follow singular strict' steps' {} = .ok d')
    (hentered : ∀ className, .enter className ∈ steps ↔ .enter className ∈ steps')
    (hvisited : ∀ className property, (∃ v, .visit className property v ∈ steps) ↔
      ∃ v, .visit className property v ∈ steps') (className : Points) :
    d.registry.finalize.propertyNames? className =
      d'.registry.finalize.propertyNames? className := by
  refine Registry.propertyNames?_finalize_congr (distinct_of_follow h) (distinct_of_follow h')
    ?_ ?_
  · rw [mem_names_of_follow h, mem_names_of_follow h', hentered]
  · intro property
    rw [observed_of_follow h hp, observed_of_follow h' hp', hvisited]

/-! ## Two builds of one document -/

/-- What a strict build that goes through has in common with the build of the
same document outside strict mode. The visits are those of either. -/
structure Refines (vs : List Visit) (strict lenient : Report) : Prop where
  accepted : lenient.fault = none
  names : lenient.registry.names = strict.registry.names
  properties : ∀ className,
    lenient.registry.propertyNames? className = strict.registry.propertyNames? className
  /-- Every visit that shows no fallback shows the type of the strict build. -/
  concrete : ∀ w ∈ vs, w.type.isFallback = false →
    strict.registry.type? w.className w.property = some w.type
  /-- A fallback in the strict build is the last of nothing but fallbacks. -/
  fallback : ∀ className property t, strict.registry.type? className property = some t →
    t.isFallback = true → (∀ u ∈ typesOf className property vs, u.isFallback = true) ∧
      (typesOf className property vs).getLast? = some t
  /-- Where the types differ only the strict one is no fallback. -/
  types : ∀ className property,
    strict.registry.type? className property = lenient.registry.type? className property ∨
      ∃ t u, strict.registry.type? className property = some t ∧
        lenient.registry.type? className property = some u ∧
        t.isFallback = false ∧ u.isFallback = true
  quiet : ∀ e ∈ lenient.log, e.level ≠ .warning

/-- Where a strict build goes through, so does the build outside strict mode. It
makes the same visits, and it gives the same classes the same properties. -/
theorem build_strict_refines (b : Builder) (root : Points) (document : Document)
    (h : (Builder.build singular { b with strict := true } root document).fault = none) :
    buildVisits singular true root document = buildVisits singular false root document ∧
    Refines (buildVisits singular false root document)
      (Builder.build singular { b with strict := true } root document)
      (Builder.build singular { b with strict := false } root document) := by
  obtain ⟨hroot, members, rfl⟩ := walkable_of_build h
  have hp := prepared_documentTour singular root members
  rw [build_object _ hroot] at h
  obtain ⟨s, hs, _⟩ := buildObject_succeeds h
  obtain ⟨l, hl⟩ := follow_lenient singular (documentTour singular root members) {}
  have hclear := not_clashing_of_follow hp hs
  rw [buildVisits_object true hroot, buildVisits_object false hroot, visits_eq hs,
    visits_lenient, build_object _ hroot, build_object _ hroot]
  refine ⟨rfl, ?_⟩
  rw [buildObject_eq true, buildObject_eq false, hs, hl]
  refine ⟨rfl, ?_, ?_, ?_, ?_, ?_, ?_⟩
  · rw [Registry.names_finalize, Registry.names_finalize, names_of_follow hs, names_of_follow hl]
  · exact propertyNames?_of_follow hp hp hl hs (fun _ => Iff.rfl) (fun _ _ => Iff.rfl)
  · intro w hmem hf
    rw [type?_of_follow hp hs]
    exact settled_strict hclear (mem_typesOf.mpr ⟨w, hmem, rfl, rfl, rfl⟩) hf
  · intro className property t ht hf
    rw [type?_of_follow hp hs] at ht
    exact settled_fallback ht hf
  · intro className property
    simp only [type?_of_follow hp hs, type?_of_follow hp hl]
    exact settled_modes hclear className property
  · intro e he hwarn
    exact hclear (clashing_of_warning hp hl he hwarn)

/-- The null that comes last is a fallback, which only the strict build leaves aside. -/
theorem sample_build_strict_refines :
    (Builder.build Naming.singular { strict := true } "node" (.object sampleMembers)).fault = none ∧
    (Builder.build Naming.singular { strict := true } "node"
      (.object sampleMembers)).registry.type? "item" "id" = some integer ∧
    (Builder.build Naming.singular { strict := false } "node"
      (.object sampleMembers)).registry.type? "item" "id" = some anything ∧
    Refines (buildVisits Naming.singular false "node" (.object sampleMembers))
      (Builder.build Naming.singular { strict := true } "node" (.object sampleMembers))
      (Builder.build Naming.singular { strict := false } "node" (.object sampleMembers)) := by
  have hb : ∀ strict, Builder.build Naming.singular { strict := strict } "node"
      (.object sampleMembers) =
      Builder.buildObject Naming.singular strict "node" sampleMembers := fun _ => rfl
  have h : (Builder.build Naming.singular { strict := true } "node" (.object sampleMembers)).fault =
      none := by
    rw [hb, buildObject_eq]
    decide +kernel
  refine ⟨h, ?_, ?_, (build_strict_refines {} "node" (.object sampleMembers) h).2⟩
  · rw [hb, buildObject_eq]
    decide +kernel
  · rw [hb, buildObject_eq]
    decide +kernel

end SampleSchema.Infer
