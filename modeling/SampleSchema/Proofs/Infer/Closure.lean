import SampleSchema.Naming.Singular
import SampleSchema.Proofs.Infer.History
/-!
What holds of the classes at every moment of a build.

* `resolve_showable`, `mem_refs_resolve`: the types a value can show, and the
  classes they refer to;
* `Registry.WellFormed`: the root class comes first, no name is repeated, and
  each field has one of those types and refers to classes that are there;
* `wellFormed_of_follow`: any front part of a tour leads to such classes;
* `build_wellFormed`: so does any number of turns of the walk, a conflict, and
  the finalization, which also sorts the fields of each class.
-/

namespace SampleSchema.Schema

open Text

namespace FieldType

/-- The types of values that are no arrays. -/
inductive Single : FieldType → Prop
  | boolean : Single boolean
  | integer : Single integer
  | decimal : Single decimal
  | text : Single text
  | anything : Single anything
  | ref (className : Points) : Single (ref className)

/-- The types that a value can show: those of values that are no arrays, and
lists of these or of untyped elements. -/
inductive Showable : FieldType → Prop
  | single {t : FieldType} : Single t → Showable t
  | list {t : FieldType} : Single t → Showable (list t)
  | untyped : Showable (list untyped)

def refs : FieldType → List Points
  | leaf _ => []
  | list items => items.refs
  | ref className => [className]

end FieldType

/-- What holds of the classes of a document whose root object has this class. -/
structure Registry.WellFormed (root : Points) (r : Registry) : Prop where
  root_first : r.names.head? = some root
  names_nodup : r.names.Nodup
  distinct : r.Distinct
  refs_exist : ∀ c ∈ r.classes, ∀ f ∈ c.observed ++ c.fields, ∀ name ∈ f.type.refs,
    name ∈ r.names
  showable : ∀ c ∈ r.classes, ∀ f ∈ c.observed ++ c.fields, f.type.Showable

end SampleSchema.Schema

namespace SampleSchema.Infer

open Json Schema Text FieldType

variable {singular : Points → Points}

/-! ## The type of one value -/

theorem scalarType_single (v : Document) : (scalarType v).Single := by
  cases v with
  | bool b => exact .boolean
  | int n => exact .integer
  | float lexeme => exact .decimal
  | string s => exact .text
  | null => exact .anything
  | array items => exact .anything
  | object members => exact .anything

private theorem itemType_showable (property : Points) (v : Document) :
    (list (itemType singular property v)).Showable := by
  unfold itemType
  split
  · exact .list (.ref _)
  · exact .list .anything
  · exact .untyped
  · exact .list (scalarType_single _)

theorem resolve_showable (isClass : Points → Bool) (property : Points) (v : Document) :
    (resolve singular isClass property v).Showable := by
  unfold resolve
  split
  · exact .list .anything
  · exact itemType_showable property _
  · exact .single (.ref _)
  · split
    · exact .single (.ref _)
    · exact .single .anything
  · exact .single (scalarType_single _)

/-- A type refers to the class of the object that the value holds, or to one
that exists. -/
theorem mem_refs_resolve {isClass : Points → Bool} {property name : Points} {v : Document}
    (h : name ∈ (resolve singular isClass property v).refs) :
    isClass name = true ∨ ∃ members, nested? singular property v = some (name, members) := by
  cases v with
  | null =>
    by_cases hc : isClass property = true
    · simp only [resolve, hc, ↓reduceIte, refs, List.mem_singleton] at h
      exact Or.inl (h ▸ hc)
    · simp only [resolve, hc] at h
      cases h
  | object members =>
    rw [List.mem_singleton.mp h]
    exact Or.inr ⟨members, rfl⟩
  | array items =>
    cases items with
    | nil => cases h
    | cons first rest =>
      cases first with
      | object members =>
        rw [List.mem_singleton.mp h]
        exact Or.inr ⟨members, rfl⟩
      | _ => cases h
  | _ => cases h

/-! ## The classes of a draft -/

/-- Each type a draft holds refers to classes that are there. -/
theorem refs_of_follow {strict : Bool} {steps : List Step} {d : Draft}
    (h : follow singular strict steps {} = .ok d) (hp : Prepared singular [] steps)
    {className property : Points} {f : InferredField}
    (hf : d.registry.observed? className property = some f) :
    ∀ name ∈ f.type.refs, name ∈ d.registry.names := by
  intro name hn
  obtain ⟨before, v, after, rfl, rfl⟩ := shown_of_follow h hf
  have hready := ((prepared_append [] before _).mp hp).2.1
  have hentered : .enter name ∈ before := by
    rcases mem_refs_resolve hn with hc | ⟨members, hm⟩
    · exact mem_entered.mp (List.contains_iff_mem.mp hc)
    · exact hready.2 name members hm
  exact (mem_names_of_follow h name).mpr (List.mem_append_left _ hentered)

/-- Any front part of a tour leads to classes that are well-formed. -/
theorem wellFormed_of_follow {strict : Bool} {root : Points} {steps : List Step} {d : Draft}
    (hp : Prepared singular [] (.enter root :: steps))
    (h : follow singular strict (.enter root :: steps) {} = .ok d) :
    d.registry.WellFormed root := by
  have hn := nodup_names_of_follow h
  have hd := distinct_of_follow h
  have hobserved : ∀ c ∈ d.registry.classes, ∀ f ∈ c.observed ++ c.fields,
      d.registry.observed? c.name f.name = some f := by
    intro c hc f hf
    rw [fields_of_follow h c hc, List.append_nil] at hf
    exact (Registry.observed?_eq_some_iff hn hd hc f f.name).mpr ⟨hf, rfl⟩
  refine ⟨?_, hn, hd, ?_, ?_⟩
  · rw [names_of_follow h, entered_enter, List.eraseDups_cons]
    rfl
  · intro c hc f hf
    exact refs_of_follow h hp (hobserved c hc f hf)
  · intro c hc f hf
    obtain ⟨before, v, after, _, he⟩ := shown_of_follow h (hobserved c hc f hf)
    rw [he]
    exact resolve_showable _ f.name v

/-- The walk leaves well-formed classes, whether it was stopped or not. -/
theorem reached_wellFormed (strict : Bool) {root : Points} {steps : List Step}
    (hp : Prepared singular [] (.enter root :: steps)) :
    (reached (follow singular strict steps (Draft.enter {} root))).registry.WellFormed root := by
  obtain ⟨front, hfront, he⟩ := exists_front strict steps (Draft.enter {} root)
  have hprefix : .enter root :: front <+: .enter root :: steps :=
    (List.prefix_cons_inj _).mpr hfront
  exact wellFormed_of_follow (prepared_front hp hprefix) he

/-! ## Finalized classes -/

theorem finalize_wellFormed {root : Points} {r : Registry} (h : r.WellFormed root) :
    r.finalize.WellFormed root := by
  have hmem : ∀ b : InferredClass, ∀ f ∈ b.finalize.observed ++ b.finalize.fields,
      f ∈ b.observed ++ b.fields := by
    intro b f hf
    have ho : f ∈ b.observed := by
      rcases List.mem_append.mp hf with hf | hf
      · exact hf
      · exact (InferredField.sortByName_perm b.observed).mem_iff.mp hf
    exact List.mem_append_left _ ho
  refine ⟨?_, ?_, ?_, ?_, ?_⟩
  · rw [Registry.names_finalize]
    exact h.root_first
  · rw [Registry.names_finalize]
    exact h.names_nodup
  · intro c hc
    obtain ⟨b, hb, rfl⟩ := Registry.mem_finalize hc
    exact h.distinct b hb
  · intro c hc f hf name hname
    obtain ⟨b, hb, rfl⟩ := Registry.mem_finalize hc
    rw [Registry.names_finalize]
    exact h.refs_exist b hb f (hmem b f hf) name hname
  · intro c hc f hf
    obtain ⟨b, hb, rfl⟩ := Registry.mem_finalize hc
    exact h.showable b hb f (hmem b f hf)

/-- A build that succeeds leaves well-formed classes. -/
theorem wellFormed_of_build {b : Builder} {root : Points} {document : Document}
    (h : (b.build singular root document).fault = none) :
    (b.build singular root document).registry.WellFormed root := by
  obtain ⟨members, rfl, he⟩ := build_succeeds h
  rw [he] at h ⊢
  obtain ⟨d, hd, hr⟩ := buildObject_succeeds h
  rw [hr]
  exact finalize_wellFormed (wellFormed_of_follow (prepared_documentTour singular root members) hd)

/-- The classes are well-formed after any number of turns, in the turn that a
conflict ends, and in the end. A walk that succeeds also leaves each class with
the fields it observed, in the strict order of the code points of their names. -/
theorem build_wellFormed (strict : Bool) (root : Points) (members : List (Points × Document)) :
    (∀ n, (reached ((turns singular strict n [rootFrame root members]
      (Draft.enter {} root)).map (·.2))).registry.WellFormed root) ∧
    (Builder.buildObject singular strict root members).registry.WellFormed root ∧
    ((Builder.buildObject singular strict root members).fault = none →
      ∀ c ∈ (Builder.buildObject singular strict root members).registry.classes,
        c.fields.Perm c.observed ∧ c.fields.Pairwise (·.name < ·.name)) := by
  have hp := prepared_documentTour singular root members
  refine ⟨?_, ?_, ?_⟩
  · intro n
    have hfront : stepsIn singular n [rootFrame root members] <+: tour singular root members := by
      rw [← stackSteps_rootFrame, ← stepsIn_append singular n]
      exact List.prefix_append _ _
    have hw := reached_wellFormed strict (prepared_front hp ((List.prefix_cons_inj _).mpr hfront))
    rw [turns_eq]
    cases hf : follow singular strict (stepsIn singular n [rootFrame root members])
      (Draft.enter {} root) with
    | error stopped => rw [hf] at hw; exact hw
    | ok d => rw [hf] at hw; exact hw
  · have hw := reached_wellFormed strict hp
    rw [buildObject_eq, show follow singular strict (documentTour singular root members) {} =
      follow singular strict (tour singular root members) (Draft.enter {} root) from rfl]
    cases hf : follow singular strict (tour singular root members) (Draft.enter {} root) with
    | error stopped => rw [hf] at hw; exact hw
    | ok d => rw [hf] at hw; exact finalize_wellFormed hw
  · intro h c hc
    obtain ⟨d, hd, hr⟩ := buildObject_succeeds h
    rw [hr] at hc
    obtain ⟨b, hb, rfl⟩ := Registry.mem_finalize hc
    exact ⟨InferredField.sortByName_perm b.observed,
      InferredField.sortByName_strict (distinct_of_follow hd b hb)⟩

theorem sample_build_wellFormed :
    (Builder.buildObject Naming.singular true "node" sampleMembers).fault = none ∧
    sampleClass ∈ (Builder.buildObject Naming.singular true "node" sampleMembers).registry.classes ∧
    sampleClass.fields.Perm sampleClass.observed ∧
    sampleClass.fields.Pairwise (·.name < ·.name) := by
  have h : (Builder.buildObject Naming.singular true "node" sampleMembers).fault = none := by
    rw [buildObject_eq]
    decide +kernel
  have hc : sampleClass ∈
      (Builder.buildObject Naming.singular true "node" sampleMembers).registry.classes := by
    rw [buildObject_eq]
    decide +kernel
  exact ⟨h, hc, (build_wellFormed true "node" sampleMembers).2.2 h sampleClass hc⟩

end SampleSchema.Infer
