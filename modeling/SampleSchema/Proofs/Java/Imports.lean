import SampleSchema.Proofs.Infer.Closure
import SampleSchema.Proofs.Java.Reading
/-!
The names that the source of a class uses.

* `imports_sorted` and those before it: what a source imports, and in which order;
* `imported_source`: the imports of a source, as its text has them;
* `SelfContained`: each type of a source is one of Java or of a declared class, and
  what it uses is imported;
* `selfContained`: the source of a class is self-contained next to the classes
  that its fields refer to.
-/

namespace SampleSchema.Java

open Literal Schema Text

/-! ## Types -/

def leafClasses : List String := ["Boolean", "Long", "Double", "String", "Object"]

/-- The class that a type names, directly or within lists. -/
def TypeName.innermost : TypeName → String
  | simple name => name
  | listOf items => items.innermost

theorem leafType_mem_leafClasses (t : FieldType) : leafType t ∈ leafClasses := by
  unfold leafType
  repeat' split
  all_goals decide

/-- The type of a field names a class of Java, or one that the field refers to. -/
theorem innermost_typeName (t : FieldType) :
    (typeName t).innermost ∈ leafClasses ∨
      ∃ name ∈ t.refs, (typeName t).innermost = className name := by
  induction t with
  | leaf name => exact Or.inl (leafType_mem_leafClasses _)
  | list items ih => exact ih
  | ref name =>
    rw [typeName, TypeName.innermost]
    exact Or.inr ⟨name, List.mem_singleton.mpr rfl, rfl⟩

/-! ## Imports -/

private theorem list_mem_imports (ms : List Member) :
    "java.util.List" ∈ imports ms ↔ ∃ m ∈ ms, ∃ items, m.type = .listOf items := by
  have hlist : ∀ t : TypeName, t.isList = true ↔ ∃ items, t = .listOf items := by
    intro t
    cases t <;> simp [TypeName.isList]
  simp [imports, hlist]

private theorem expose_mem_imports (ms : List Member) :
    "com.google.gson.annotations.Expose" ∈ imports ms ↔ ∃ m ∈ ms, .expose ∈ m.annotations := by
  simp [imports]

private theorem serializedName_mem_imports (ms : List Member) :
    "com.google.gson.annotations.SerializedName" ∈ imports ms ↔
      ∃ m ∈ ms, ∃ property, .serializedName property ∈ m.annotations := by
  have hname : ∀ a : Marker,
      a.isSerializedName = true ↔ ∃ property, a = .serializedName property := by
    intro a
    cases a <;> simp [Marker.isSerializedName]
  simp only [imports]
  simp [hname]

/-- The imports are in strict order, so that none is repeated. -/
theorem imports_sorted (ms : List Member) : (imports ms).Pairwise (· < ·) := by
  simp only [imports]
  repeat' split
  all_goals decide +kernel

def imported? (line : Points) : Option Points :=
  (after? "import " line).map List.dropLast

private theorem imported?_import (name : String) :
    imported? ("import " ++ name ++ ";" : String) = some (name : Points) := by
  have hline : Points.ofString ("import " ++ name ++ ";") =
      Points.ofString "import " ++ (Points.ofString name ++ [.char ';']) := by
    simp [Points.ofString]
  rw [imported?, hline, after?_append, Option.map_some, List.dropLast_concat]

/-- A line that does not start as an import does. -/
def NoImport (line : Points) : Prop := line.head? ≠ some (.char 'i')

instance (line : Points) : Decidable (NoImport line) := inferInstanceAs (Decidable (_ ≠ _))

theorem noImport_append {front : Points} (back : Points) (h : NoImport front) (hne : front ≠ []) :
    NoImport (front ++ back) := by
  unfold NoImport
  rwa [List.head?_append_of_ne_nil _ hne]

theorem noImport_ofString_append {front : String} (back : String) (h : NoImport front)
    (hne : Points.ofString front ≠ []) : NoImport (front ++ back : String) := by
  rw [Points.ofString_append]
  exact noImport_append _ h hne

private theorem imported?_eq_none {line : Points} (h : NoImport line) : imported? line = none := by
  rw [imported?, Option.map_eq_none_iff, Option.eq_none_iff_forall_ne_some]
  intro rest he
  have hline := List.isPrefixOf?_eq_some_iff_append_eq.mp he
  exact h (hline ▸ rfl)

theorem filterMap_imported?_eq_nil {written : List Points} (h : ∀ line ∈ written, NoImport line) :
    written.filterMap imported? = [] :=
  List.filterMap_eq_nil_iff.mpr fun line hl => imported?_eq_none (h line hl)

private theorem noImport_packageLines (package : String) :
    ∀ line ∈ packageLines package, NoImport (line : Points) := by
  unfold packageLines
  split
  · exact List.forall_mem_nil _
  · rw [List.forall_mem_cons, List.forall_mem_singleton, String.append_assoc]
    exact ⟨noImport_ofString_append _ (by decide) (by decide), by decide⟩

private theorem noImport_fieldLines (m : Member) : ∀ line ∈ fieldLines m, NoImport line := by
  simp only [fieldLines, List.forall_mem_append, List.forall_mem_cons, List.forall_mem_map,
    String.append_assoc]
  exact ⟨⟨by decide, fun a _ => noImport_append _ (by decide) (by decide)⟩,
    noImport_ofString_append _ (by decide) (by decide), List.forall_mem_nil _⟩

private theorem noImport_accessorLines (m : Member) :
    ∀ line ∈ accessorLines m, NoImport (line : Points) := by
  simp only [accessorLines, List.forall_mem_cons, String.append_assoc]
  refine ⟨by decide, ?_, ?_, by decide, by decide, ?_, ?_, by decide, List.forall_mem_nil _⟩
  all_goals exact noImport_ofString_append _ (by decide) (by decide)

/-- Of the lines before the start of a class, those of the imports are all that import
something. -/
theorem filterMap_imported?_headLines (style : Style) (ms : List Member) :
    ((headLines style ms).map Points.ofString).filterMap imported? =
      (imports ms).map Points.ofString := by
  have himports : ((imports ms).map fun i => Points.ofString ("import " ++ i ++ ";")).filterMap
      imported? = (imports ms).map Points.ofString := by
    rw [List.filterMap_map, ← List.filterMap_eq_map]
    exact List.filterMap_congr fun i _ => imported?_import i
  have hpackage : ((packageLines style.package).map Points.ofString).filterMap imported? = [] :=
    filterMap_imported?_eq_nil (List.forall_mem_map.mpr (noImport_packageLines _))
  have hheader : ∀ line ∈ (["", "@Generated(\"" ++ style.generator ++ "\")",
      "@SuppressWarnings(\"unused\")"] : List String).map Points.ofString, NoImport line := by
    simp only [List.forall_mem_map, List.forall_mem_cons, String.append_assoc]
    exact ⟨by decide, noImport_ofString_append _ (by decide) (by decide), by decide,
      List.forall_mem_nil _⟩
  rw [headLines, List.map_append, List.map_append, List.filterMap_append, List.filterMap_append,
    hpackage, filterMap_imported?_eq_nil hheader, List.map_map, List.nil_append, List.append_nil]
  exact himports

private theorem noImport_bodyLines (name : String) (ms : List Member) :
    ∀ line ∈ bodyLines name ms, NoImport line := by
  have hend : ∀ line ∈ (["\x7d"] : List String).map Points.ofString, NoImport line := by decide
  simp only [bodyLines, tailLines, startLine, List.map_append, List.map_flatMap,
    List.forall_mem_append, List.forall_mem_flatMap, List.forall_mem_cons, String.append_assoc]
  exact ⟨noImport_ofString_append _ (by decide) (by decide), fun m _ => noImport_fieldLines m,
    fun m _ => List.forall_mem_map.mpr (noImport_accessorLines m), hend⟩

/-- The imports of a source are those that its members need. -/
theorem imported_source {style : Style} (hpackage : Unbroken style.package)
    (hgenerator : Unbroken style.generator) (c : InferredClass) :
    (splitLines (source style c)).filterMap imported? =
      (imports (members style c)).map Points.ofString := by
  rw [source, splitLines_textOfLines (unbroken_classLines hpackage hgenerator c), classLines_eq,
    List.filterMap_append, filterMap_imported?_headLines,
    filterMap_imported?_eq_nil (noImport_bodyLines _ _), List.append_nil]

/-! ## Sources -/

/-- The source of a class uses no name that it does not import and that is none of
Java or of the declared classes. -/
structure SelfContained (style : Style) (declared : String → Prop) (c : InferredClass) :
    Prop where
  types : ∀ m ∈ members style c, m.type.innermost ∈ leafClasses ∨ declared m.type.innermost
  list : "java.util.List" ∈ imports (members style c) ↔
    ∃ m ∈ members style c, ∃ items, m.type = .listOf items
  expose : "com.google.gson.annotations.Expose" ∈ imports (members style c) ↔
    ∃ m ∈ members style c, .expose ∈ m.annotations
  serializedName : "com.google.gson.annotations.SerializedName" ∈ imports (members style c) ↔
    ∃ m ∈ members style c, ∃ property, .serializedName property ∈ m.annotations
  sorted : (imports (members style c)).Pairwise (· < ·)
  /-- The text has these imports, unless the style has line breaks in its names. -/
  imported : Unbroken style.package → Unbroken style.generator →
    (splitLines (source style c)).filterMap imported? =
      (imports (members style c)).map Points.ofString

/-- A source is self-contained if the classes are declared that its fields refer to. -/
theorem selfContained {declared : String → Prop} {c : InferredClass} (style : Style)
    (h : ∀ f ∈ c.fields, ∀ name ∈ f.type.refs, declared (className name)) :
    SelfContained style declared c where
  types := by
    intro m hm
    obtain ⟨f, hf, base, _, rfl⟩ := exists_of_mem_membersOf hm
    rcases innermost_typeName f.type with hleaf | ⟨name, hname, he⟩
    · exact Or.inl hleaf
    · exact Or.inr (Eq.mpr (congrArg declared he) (h f hf name hname))
  list := list_mem_imports _
  expose := expose_mem_imports _
  serializedName := serializedName_mem_imports _
  sorted := imports_sorted _
  imported := fun hpackage hgenerator => imported_source hpackage hgenerator c

end SampleSchema.Java
