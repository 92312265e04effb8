import SampleSchema.Proofs.Infer.Visits
import SampleSchema.Proofs.Java.Imports
import SampleSchema.Proofs.Java.Spelling
/-!
Generated classes whose names a source uses for something else.

* `usedNames`: the names of Java and of its imports that sources use;
* `TypeName.meaning`, `intended`: what the type of a field stands for next to
  generated classes, and what it should stand for;
* `string_captured`: a property `string` gives a class `String`, and then the
  texts of the document have another type;
* `types_mean_intended`: a class has a used name only if its property is spelled
  like that name, and where no property is, every type means what it should.
-/

namespace SampleSchema.Java

open Json Infer Naming Schema
open Text (Points)

def usedNames : List String :=
  ["Boolean", "Long", "Double", "String", "Object", "List", "Expose", "SerializedName",
    "Generated", "SuppressWarnings"]

/-- A name that has the letters of a used one, up to their case. -/
def SpelledAsUsed (name : Points) : Prop :=
  ∃ used ∈ usedNames, spelling name.shown.toList = spelling used.toList

instance (name : Points) : Decidable (SpelledAsUsed name) :=
  inferInstanceAs (Decidable (∃ used ∈ usedNames, _))

inductive Meaning where
  /-- A class of Java. -/
  | builtIn (name : String)
  /-- A generated class. -/
  | generated (name : String)
  | listOf (items : Meaning)
  deriving DecidableEq, Repr

/-- What a type stands for next to generated classes. Of a generated class and one
of Java with the same name it is the generated one. -/
def TypeName.meaning (generated : List String) : TypeName → Meaning
  | simple name => if generated.contains name then .generated name else .builtIn name
  | listOf items => .listOf (items.meaning generated)

/-- What a field type should stand for. -/
def intended : FieldType → Meaning
  | .leaf name => .builtIn (leafType (.leaf name))
  | .list items => .listOf (intended items)
  | .ref name => .generated (className name)

def generatedNames (r : Registry) : List String := r.names.map className

/-! ## A class that is taken for another -/

/-- A document with a text and an object under the key `string`. -/
def stringMembers : List (Points × Document) :=
  [("name", .string "x"), ("string", .object [("a", .int 1)])]

/-- The class of the document. -/
def stringRoot : InferredClass where
  name := "Root"
  observed := [⟨"name", .text⟩, ⟨"string", .ref "string"⟩]
  fields := [⟨"name", .text⟩, ⟨"string", .ref "string"⟩]

/-- The type of the text is that of the object, and stands for it. -/
theorem string_captured :
    className "string" ∈ usedNames ∧ typeName (.ref "string") = typeName .text ∧
    (buildSchema Naming.singular false "Root" (.object stringMembers)).fault = none ∧
    stringRoot ∈ (buildSchema Naming.singular false "Root"
      (.object stringMembers)).registry.classes ∧
    (typeName .text).meaning
        (generatedNames (buildSchema Naming.singular false "Root"
          (.object stringMembers)).registry) =
      .generated "String" ∧
    intended .text = .builtIn "String" := by
  have hbuild : buildSchema Naming.singular false "Root" (.object stringMembers) =
      Builder.buildObject Naming.singular false "Root" stringMembers := rfl
  rw [hbuild, buildObject_eq]
  decide +kernel

/-! ## Types that keep their meaning -/

private theorem spelledAsUsed_of_className {name : Points} (h : className name ∈ usedNames) :
    SpelledAsUsed name := by
  have hunnamed : ∀ used ∈ usedNames, spelling used.toList ≠ spelling "Unnamed".toList := by
    decide
  refine ⟨className name, h, ?_⟩
  have hspelling := spelling_className name
  split at hspelling
  · exact absurd hspelling (hunnamed _ h)
  · exact hspelling.symm

theorem leafType_mem_usedNames (t : FieldType) : leafType t ∈ usedNames := by
  have hsubset : leafClasses ⊆ usedNames := by decide
  exact hsubset (leafType_mem_leafClasses t)

/-- A type means what it should, if the classes that it refers to are generated and
none of the generated ones has a used name. -/
theorem meaning_typeName {r : Registry} (hfree : ∀ name ∈ r.names, className name ∉ usedNames)
    {t : FieldType} (hrefs : ∀ name ∈ t.refs, name ∈ r.names) :
    (typeName t).meaning (generatedNames r) = intended t := by
  induction t with
  | leaf name =>
    have hnot : leafType (.leaf name) ∉ generatedNames r := by
      intro hmem
      obtain ⟨other, hother, he⟩ := List.mem_map.mp hmem
      exact hfree other hother (he ▸ leafType_mem_usedNames _)
    simp [typeName, TypeName.meaning, intended, hnot]
  | list items ih => rw [typeName, TypeName.meaning, intended, ih hrefs]
  | ref name =>
    have hmem : className name ∈ generatedNames r :=
      List.mem_map_of_mem (hrefs name (List.mem_singleton.mpr rfl))
    simp [typeName, TypeName.meaning, intended, hmem]

/-- A class has a used name only if the name it is made of is spelled like that, and
each used name can come up. Where no class is spelled so, the type of a reference
is not that of a leaf, and every type means what it should. -/
theorem types_mean_intended (r : Registry) :
    (∀ name, className name ∈ usedNames → SpelledAsUsed name) ∧
    (∀ used ∈ usedNames, className (lowerFirst used) = used) ∧
    ((∀ name ∈ r.names, ¬ SpelledAsUsed name) →
      (∀ name ∈ r.names, className name ∉ usedNames ∧
        ∀ leaf, typeName (.ref name) ≠ typeName (.leaf leaf)) ∧
      ∀ c ∈ r.classes, ∀ f ∈ c.fields, (∀ name ∈ f.type.refs, name ∈ r.names) →
        (typeName f.type).meaning (generatedNames r) = intended f.type) := by
  refine ⟨fun name h => spelledAsUsed_of_className h, by decide +kernel, fun hspelled => ?_⟩
  have hfree : ∀ name ∈ r.names, className name ∉ usedNames :=
    fun name hn h => hspelled name hn (spelledAsUsed_of_className h)
  refine ⟨fun name hn => ⟨hfree name hn, fun leaf he => ?_⟩,
    fun c _ f _ hrefs => meaning_typeName hfree hrefs⟩
  have hname : className name = leafType (.leaf leaf) := TypeName.simple.inj he
  exact hfree name hn (hname ▸ leafType_mem_usedNames _)

/-- Classes whose names come near to used ones. -/
def nearRegistry : Registry :=
  ⟨[{ name := "strings", fields := [⟨"list_item", .list (.ref "list_item")⟩, ⟨"s", .text⟩] },
    { name := "list_item", fields := [⟨"objects", .ref "strings"⟩] },
    { name := "___", fields := [] }]⟩

theorem near_types_mean_intended :
    (∀ name ∈ nearRegistry.names, ¬ SpelledAsUsed name) ∧
    className "SERIALIZED_name" ∈ usedNames ∧ SpelledAsUsed "SERIALIZED_name" ∧
    className "list_item" ∉ usedNames ∧
    (typeName (.list (.ref "list_item"))).meaning (generatedNames nearRegistry) =
      .listOf (.generated "ListItem") := by
  have hspelled : ∀ name ∈ nearRegistry.names, ¬ SpelledAsUsed name := by decide +kernel
  have hused : className "SERIALIZED_name" ∈ usedNames := by decide +kernel
  have h := types_mean_intended nearRegistry
  have hfields := (h.2.2 hspelled).2 _ (List.mem_cons_self ..) _ (List.mem_cons_self ..)
    (by decide)
  refine ⟨hspelled, hused, h.1 _ hused, ((h.2.2 hspelled).1 "list_item" (by decide)).1, ?_⟩
  rw [hfields]
  decide +kernel

end SampleSchema.Java
