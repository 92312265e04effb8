import SampleSchema.Naming.Singular
import SampleSchema.Proofs.Infer.Strict
/-!
Nulls and empty arrays in strict mode.

An empty array shows a fallback. A null shows a fallback too, unless an object
of a class that is named like the property has begun: then it is taken for an
object of that class, and in strict mode that is a type like any other.

* `Uniform`: apart from nulls and empty arrays, the values of a property show
  one type;
* `NullClash`: a null is taken for an object where other values show something
  else;
* `null_meets_number`: a document with a null that strict mode refuses;
* `build_uniform`: on uniform documents that is the only way to be refused.
-/

namespace SampleSchema.Infer

open Json Schema Text FieldType

variable {singular : Points → Points}

/-- Nulls and empty arrays, which say nothing about the type of a property. -/
def isBlank : Document → Bool
  | .null => true
  | .array [] => true
  | _ => false

/-- For each property of a class, all values apart from nulls and empty arrays
show one type, and it is no fallback. -/
def Uniform (vs : List Visit) : Prop :=
  ∀ a ∈ vs, isBlank a.value = false → a.type.isFallback = false ∧
    ∀ b ∈ vs, b.className = a.className → b.property = a.property → isBlank b.value = false →
      b.type = a.type

instance (vs : List Visit) : Decidable (Uniform vs) :=
  inferInstanceAs (Decidable (∀ a ∈ vs, isBlank a.value = false → a.type.isFallback = false ∧
    ∀ b ∈ vs, b.className = a.className → b.property = a.property → isBlank b.value = false →
      b.type = a.type))

/-- A null is taken for an object of the class of its property, and another
value of the property shows another type. -/
def NullClash (vs : List Visit) : Prop :=
  ∃ n ∈ vs, ∃ w ∈ vs, n.className = w.className ∧ n.property = w.property ∧
    n.value = .null ∧ n.type = .ref n.property ∧
    isBlank w.value = false ∧ w.type ≠ .ref w.property

/-! ## A null that strict mode refuses -/

/-- A property is a number in one object and null in another, and elsewhere an
object has its name. -/
def numberThenNull : List (Points × Document) :=
  [("p", .object [("v", .int 1)]),
    ("v", .object []),
    ("q", .object [("p", .object [("v", .null)])])]

/-- The null is refused although the property shows no other type than that of
the number. -/
theorem null_meets_number :
    Uniform (buildVisits Naming.singular false "Root" (.object numberThenNull)) ∧
    (Builder.build Naming.singular { strict := true } "Root" (.object numberThenNull)).fault =
      some (.conflict ⟨"p", "v", integer, ref "v"⟩) := by
  have hb : Builder.build Naming.singular { strict := true } "Root" (.object numberThenNull) =
      Builder.buildObject Naming.singular true "Root" numberThenNull := rfl
  constructor
  · decide +kernel
  · rw [hb, buildObject_eq]
    decide +kernel

/-! ## When nulls are harmless -/

/-- A blank value shows a fallback, or is a null that is taken for an object. -/
theorem type_of_blank (isClass : Points → Bool) (property : Points) {v : Document}
    (h : isBlank v = true) :
    (resolve singular isClass property v).isFallback = true ∨
      v = .null ∧ resolve singular isClass property v = .ref property := by
  cases v with
  | null =>
    cases hc : isClass property with
    | true => exact Or.inr ⟨rfl, by simp [resolve, hc]⟩
    | false => exact Or.inl (by simp [resolve, hc]; rfl)
  | array items =>
    cases items with
    | nil => exact Or.inl rfl
    | cons => cases h
  | _ => cases h

private theorem taken_of_blank {steps : List Step} {w : Visit}
    (hw : w ∈ visitsAfter singular [] steps)
    (hb : isBlank w.value = true) (hf : w.type.isFallback = false) :
    w.value = .null ∧ w.type = .ref w.property := by
  obtain ⟨_, isClass, ht⟩ := of_mem_visitsAfter hw
  rw [ht] at hf ⊢
  rcases type_of_blank isClass w.property hb with hfall | htaken
  · rw [hfall] at hf
    cases hf
  · exact htaken

/-- Where the other values agree, only a null that is taken for an object can be
in conflict with them. -/
theorem clashing_iff_nullClash {steps : List Step} (hu : Uniform (visitsAfter singular [] steps)) :
    Clashing (visitsAfter singular [] steps) ↔ NullClash (visitsAfter singular [] steps) := by
  constructor
  · rintro ⟨a, ha, b, hb, hc, hp, hne, hfa, hfb⟩
    cases hba : isBlank a.value with
    | true =>
      obtain ⟨hnull, htaken⟩ := taken_of_blank ha hba hfa
      have hother : b.type ≠ .ref b.property := by
        rw [← hp, ← htaken]
        exact hne.symm
      cases hbb : isBlank b.value with
      | true => exact absurd (taken_of_blank hb hbb hfb).2 hother
      | false => exact ⟨a, ha, b, hb, hc, hp, hnull, htaken, hbb, hother⟩
    | false =>
      cases hbb : isBlank b.value with
      | true =>
        obtain ⟨hnull, htaken⟩ := taken_of_blank hb hbb hfb
        have hother : a.type ≠ .ref a.property := by
          rw [hp, ← htaken]
          exact hne
        exact ⟨b, hb, a, ha, hc.symm, hp.symm, hnull, htaken, hba, hother⟩
      | false => exact absurd ((hu a ha hba).2 b hb hc.symm hp.symm hbb).symm hne
  · rintro ⟨n, hn, w, hw, hc, hp, _, htaken, hbw, hother⟩
    refine ⟨n, hn, w, hw, hc, hp, ?_, ?_, (hu w hw hbw).1⟩
    · rw [htaken, hp]
      exact hother.symm
    · rw [htaken]
      rfl

/-- Where the values of each property apart from nulls and empty arrays show one
type, a strict build goes through unless a null is taken for an object of
another type. Each such property then has the type that its values show,
wherever the nulls and empty arrays come in the order of the visits. -/
theorem build_uniform (b : Builder) {root : Points} (hroot : root ≠ "")
    (members : List (Points × Document))
    (hu : Uniform (buildVisits singular false root (.object members))) :
    ((Builder.build singular { b with strict := true } root (.object members)).fault = none ↔
      ¬ NullClash (buildVisits singular false root (.object members))) ∧
    ((Builder.build singular { b with strict := true } root (.object members)).fault = none →
      ∀ w ∈ buildVisits singular false root (.object members), isBlank w.value = false →
        (Builder.build singular { b with strict := true } root (.object members)).registry.type?
          w.className w.property = some w.type) := by
  have hw : Walkable root (.object members) := ⟨hroot, members, rfl⟩
  have hv : buildVisits singular false root (.object members) =
      visitsAfter singular [] (documentTour singular root members) := by
    rw [buildVisits_object false hroot, visits_lenient]
  rw [hv] at hu ⊢
  constructor
  · rw [accepted_iff, hv, clashing_iff_nullClash hu]
    exact and_iff_right hw
  · intro h w hmem hbw
    rw [build_object _ hroot] at h ⊢
    obtain ⟨d, hd, hr⟩ := buildObject_succeeds h
    have hp := prepared_documentTour singular root members
    rw [hr, type?_of_follow hp hd]
    exact settled_strict (not_clashing_of_follow hp hd) (mem_typesOf.mpr ⟨w, hmem, rfl, rfl, rfl⟩)
      (hu w hmem hbw).1

/-- A property with a number between two nulls, a list between two empty arrays,
and a null that is taken for an object. -/
def numberAmongNulls : List (Points × Document) :=
  [("p", .object [("v", .null), ("w", .array [])]),
    ("q", .object [("p", .object [("v", .int 1), ("w", .array [.string "x"])])]),
    ("r", .object [("p", .object [("v", .null), ("w", .array []), ("q", .null)])])]

theorem sample_build_uniform :
    ("Root" : Points) ≠ "" ∧
    Uniform (buildVisits Naming.singular false "Root" (.object numberAmongNulls)) ∧
    (Builder.build Naming.singular { strict := true } "Root" (.object numberAmongNulls)).fault =
      none ∧
    ¬ NullClash (buildVisits Naming.singular false "Root" (.object numberAmongNulls)) ∧
    ∀ w ∈ buildVisits Naming.singular false "Root" (.object numberAmongNulls),
      isBlank w.value = false →
      (Builder.build Naming.singular { strict := true } "Root"
        (.object numberAmongNulls)).registry.type? w.className w.property = some w.type := by
  have hroot : ("Root" : Points) ≠ "" := by decide
  have hu : Uniform (buildVisits Naming.singular false "Root"
      (.object numberAmongNulls)) := by decide +kernel
  have h : (Builder.build Naming.singular { strict := true } "Root"
      (.object numberAmongNulls)).fault = none := by
    rw [show Builder.build Naming.singular { strict := true } "Root" (.object numberAmongNulls) =
      Builder.buildObject Naming.singular true "Root" numberAmongNulls from rfl, buildObject_eq]
    decide +kernel
  have hbuild := build_uniform {} hroot numberAmongNulls hu
  exact ⟨hroot, hu, h, hbuild.1.mp h, hbuild.2 h⟩

end SampleSchema.Infer
