import SampleSchema.Naming.Singular
import SampleSchema.Proofs.Infer.History
/-!
The types of the fields outside strict mode.

* `Shows`: the type that a value shows for a property, row by row;
* `LastVisit`: the last visit of a property of a class among some steps;
* `observed_lastVisit`: the observed type is the one that the last visit showed;
* `build_lastVisit`: a build outside strict mode succeeds, and each field has
  the type that the last visit of its property showed.
-/

namespace SampleSchema.Infer

open Json Schema Text FieldType

variable {singular : Points → Points}

/-! ## The type of one value -/

/-- A value shows a type for a property. `begun` tells of which classes an
object has begun before. Of an array only the first element counts, and only a
null depends on what has begun. -/
inductive Shows (singular : Points → Points) (begun : Points → Prop) (property : Points) :
    Document → FieldType → Prop
  | bool (b : Bool) : Shows singular begun property (.bool b) boolean
  | int (n : Int) : Shows singular begun property (.int n) integer
  | float (lexeme : String) : Shows singular begun property (.float lexeme) decimal
  | string (s : Points) : Shows singular begun property (.string s) text
  | object (members : List (Points × Document)) :
      Shows singular begun property (.object members) (ref property)
  | classNull : begun property → Shows singular begun property .null (ref property)
  | otherNull : ¬ begun property → Shows singular begun property .null anything
  | noItems : Shows singular begun property (.array []) (list anything)
  | objects (members : List (Points × Document)) (rest : List Document) :
      Shows singular begun property (.array (.object members :: rest))
        (list (ref (singular property)))
  | arrays (items rest : List Document) :
      Shows singular begun property (.array (.array items :: rest)) (list untyped)
  | nulls (rest : List Document) :
      Shows singular begun property (.array (.null :: rest)) (list anything)
  | bools (b : Bool) (rest : List Document) :
      Shows singular begun property (.array (.bool b :: rest)) (list boolean)
  | ints (n : Int) (rest : List Document) :
      Shows singular begun property (.array (.int n :: rest)) (list integer)
  | floats (lexeme : String) (rest : List Document) :
      Shows singular begun property (.array (.float lexeme :: rest)) (list decimal)
  | strings (s : Points) (rest : List Document) :
      Shows singular begun property (.array (.string s :: rest)) (list text)

private theorem shows_item (begun : Points → Prop) (property : Points) (first : Document)
    (rest : List Document) :
    Shows singular begun property (.array (first :: rest))
      (list (itemType singular property first)) := by
  cases first with
  | null => exact .nulls rest
  | bool b => exact .bools b rest
  | int n => exact .ints n rest
  | float lexeme => exact .floats lexeme rest
  | string s => exact .strings s rest
  | array items => exact .arrays items rest
  | object members => exact .objects members rest

private theorem shows_shown (before : List Step) (property : Points) (v : Document) :
    Shows singular (fun name => .enter name ∈ before) property v
      (shown singular before property v) := by
  cases v with
  | null =>
    rw [shown, resolve]
    split
    · rename_i hc
      exact .classNull (mem_entered.mp (List.contains_iff_mem.mp hc))
    · rename_i hc
      exact .otherNull fun h => hc (List.contains_iff_mem.mpr (mem_entered.mpr h))
  | bool b => exact .bool b
  | int n => exact .int n
  | float lexeme => exact .float lexeme
  | string s => exact .string s
  | array items =>
    cases items with
    | nil => exact .noItems
    | cons first rest => exact shows_item _ property first rest
  | object members => exact .object members

/-- A value shows only one type. -/
theorem shows_unique {begun : Points → Prop} {property : Points} {v : Document} {t u : FieldType}
    (ht : Shows singular begun property v t) (hu : Shows singular begun property v u) : t = u := by
  cases ht with
  | classNull hb =>
    cases hu with
    | classNull => rfl
    | otherNull hn => exact absurd hb hn
  | otherNull hn =>
    cases hu with
    | classNull hb => exact absurd hb hn
    | otherNull => rfl
  | _ => cases hu; rfl

private theorem shows_iff (before : List Step) (property : Points) (v : Document) (t : FieldType) :
    Shows singular (fun name => .enter name ∈ before) property v t ↔
      t = shown singular before property v := by
  constructor
  · intro h
    exact shows_unique h (shows_shown before property v)
  · rintro rfl
    exact shows_shown before property v

/-! ## The last visit -/

/-- After the steps `before` the value `v` is shown for the property of the
class, and no later step shows another value for it. -/
def LastVisit (className property : Points) (steps before : List Step) (v : Document) : Prop :=
  ∃ after, steps = before ++ .visit className property v :: after ∧
    ∀ w, .visit className property w ∉ after

theorem snoc_eq_append_cons {steps before after : List Step} {s t : Step}
    (h : steps ++ [s] = before ++ t :: after) :
    (after = [] ∧ before = steps ∧ t = s) ∨
      ∃ front, after = front ++ [s] ∧ steps = before ++ t :: front := by
  rcases List.eq_nil_or_concat after with rfl | ⟨front, last, rfl⟩
  · obtain ⟨hs, ht⟩ := List.append_inj' h rfl
    cases ht
    exact Or.inl ⟨rfl, hs.symm, rfl⟩
  · rw [List.concat_eq_append, ← List.cons_append, ← List.append_assoc] at h
    obtain ⟨hs, hl⟩ := List.append_inj' h rfl
    cases hl
    exact Or.inr ⟨front, List.concat_eq_append, hs⟩

private theorem lastVisit_snoc_same (className property : Points) (steps before : List Step)
    (v w : Document) :
    LastVisit className property (steps ++ [.visit className property w]) before v ↔
      before = steps ∧ v = w := by
  constructor
  · rintro ⟨after, he, hafter⟩
    rcases snoc_eq_append_cons he with ⟨_, hs, hv⟩ | ⟨front, rfl, _⟩
    · cases hv
      exact ⟨hs, rfl⟩
    · exact absurd (by simp) (hafter w)
  · rintro ⟨rfl, rfl⟩
    exact ⟨[], rfl, by simp⟩

private theorem lastVisit_snoc_other {className property : Points} {s : Step}
    (hs : ∀ w, s ≠ .visit className property w) (steps before : List Step) (v : Document) :
    LastVisit className property (steps ++ [s]) before v ↔
      LastVisit className property steps before v := by
  constructor
  · rintro ⟨after, he, hafter⟩
    rcases snoc_eq_append_cons he with ⟨_, _, hv⟩ | ⟨front, rfl, rfl⟩
    · exact absurd hv.symm (hs v)
    · exact ⟨front, rfl, fun w hw => hafter w (List.mem_append_left _ hw)⟩
  · rintro ⟨after, rfl, hafter⟩
    refine ⟨after ++ [s], by simp, ?_⟩
    intro w hw
    rcases List.mem_append.mp hw with hw | hw
    · exact hafter w hw
    · exact hs w (List.mem_singleton.mp hw).symm

/-- Outside strict mode a visit always stores the type it shows. -/
theorem registry_of_lenient_visit {d d' : Draft} {className property : Points} {v : Document}
    (h : d.take singular false (.visit className property v) = .ok d') :
    d'.registry =
      d.registry.put className ⟨property, resolve singular d.registry.contains property v⟩ := by
  have ho := visit_observation singular false d className property v
  rw [h] at ho
  cases ho with
  | first => rfl
  | same => rfl
  | changed => rfl
  | kept _ _ _ hs => cases hs

/-- Outside strict mode the observed type is the one that the last visit showed. -/
theorem observed_lastVisit {steps : List Step} {d : Draft} (hp : Prepared singular [] steps)
    (h : follow singular false steps {} = .ok d) (className property : Points) (f : InferredField) :
    d.registry.observed? className property = some f ↔
      ∃ before v, LastVisit className property steps before v ∧
        f = ⟨property, shown singular before property v⟩ := by
  revert hp className property f
  refine follow_invariant
    (motive := fun done d => Prepared singular [] done → ∀ className property f,
    d.registry.observed? className property = some f ↔
      ∃ before v, LastVisit className property done before v ∧
        f = ⟨property, shown singular before property v⟩) ?_ ?_ h
  · intro _ className property f
    constructor
    · intro hf
      cases hf
    · rintro ⟨before, v, ⟨after, he, _⟩, _⟩
      simp at he
  · intro done s d d' hdone ih hd hp className property f
    obtain ⟨hfront, hready, _⟩ := (prepared_append [] done [s]).mp hp
    cases s with
    | enter entering =>
      cases hd
      have hother : ∀ w, Step.enter entering ≠ .visit className property w := by
        intro w hw
        cases hw
      simp only [registry_enter, Registry.observed?_create, ih hfront,
        lastVisit_snoc_other hother]
    | visit visited visitedProperty v =>
      have hmem : visited ∈ d.registry.names := (mem_names_of_follow hdone visited).mpr hready.1
      rw [registry_of_lenient_visit hd, Registry.observed?_put hmem, contains_of_follow hdone]
      by_cases he : visited = className ∧ visitedProperty = property
      · obtain ⟨rfl, rfl⟩ := he
        simp only [and_self, ↓reduceIte, lastVisit_snoc_same, Option.some.injEq]
        constructor
        · rintro rfl
          exact ⟨done, v, ⟨rfl, rfl⟩, rfl⟩
        · rintro ⟨before, w, ⟨rfl, rfl⟩, rfl⟩
          rfl
      · have hother : ∀ w, Step.visit visited visitedProperty v ≠ .visit className property w := by
          intro w hw
          cases hw
          exact he ⟨rfl, rfl⟩
        simp only [he, ↓reduceIte, ih hfront, lastVisit_snoc_other hother]

/-- Outside strict mode the build of an object under a name succeeds. A property
of a class has the type that the last visit of the property in an object of the
class showed, where a null counts as an object of a class only if the root
object or another object of that class began before it. -/
theorem build_lastVisit (singular : Points → Points) (b : Builder) (hb : b.strict = false)
    (root : Points) (hroot : root ≠ "") (members : List (Points × Document)) :
    (b.build singular root (.object members)).fault = none ∧
    ∀ className property t,
      ((b.build singular root (.object members)).registry.get? className).bind (·.field? property) =
          some ⟨property, t⟩ ↔
        ∃ before v, LastVisit className property (documentTour singular root members) before v ∧
          Shows singular (fun name => .enter name ∈ before) property v t := by
  obtain ⟨d, hd⟩ := follow_lenient singular (documentTour singular root members) {}
  have hbuild : b.build singular root (.object members) =
      Builder.buildObject singular false root members := by
    simp [Builder.build, Points.isEmpty_eq_false hroot, hb]
  rw [hbuild, buildObject_eq, hd]
  refine ⟨rfl, ?_⟩
  intro className property t
  rw [Registry.field?_finalize (distinct_of_follow hd),
    observed_lastVisit (prepared_documentTour singular root members) hd]
  simp [shows_iff]

/-- The number that the first visit shows gives way to the null of the last. -/
theorem sample_build_lastVisit :
    ("node" : Points) ≠ "" ∧
    (Builder.build Naming.singular {} "node" (.object sampleMembers)).fault = none ∧
    ∃ before v, LastVisit "item" "id" (documentTour Naming.singular "node" sampleMembers) before v ∧
      Shows Naming.singular (fun name => .enter name ∈ before) "id" v anything := by
  have hroot : ("node" : Points) ≠ "" := by decide
  have h := build_lastVisit Naming.singular {} rfl "node" hroot sampleMembers
  refine ⟨hroot, h.1, (h.2 "item" "id" anything).mp ?_⟩
  rw [show Builder.build Naming.singular {} "node" (.object sampleMembers) =
    Builder.buildObject Naming.singular false "node" sampleMembers from rfl, buildObject_eq]
  decide +kernel

end SampleSchema.Infer
