import SampleSchema.Proofs.Infer.Closure
import SampleSchema.Proofs.Json.RoundTrip
import SampleSchema.Schema.Export
/-!
The JSON form of a registry can be decoded.

* `FieldType.ofJson?_toJson`: a type is decoded from its JSON form, so that no two
  types have the same (`FieldType.toJson_injective`);
* `Registry.outline`: what a model tells of a registry, its classes and their fields;
* `Registry.ofJson?_toJson`: the outline of a registry is decoded from its JSON form;
* `Registry.plain_toJson`, `Registry.nesting_toJson`: the form has no other values than
  strings, arrays and objects, and how deep they are nested.
-/

namespace SampleSchema.Schema

open SampleSchema.Json Text

/-! ## Types -/

namespace FieldType

def ofJson? : Document → Option FieldType
  | .string name => if name.isString then some (.leaf name.shown) else none
  | .object [(first, .string kind), (second, v)] =>
      if first = "type" ∧ kind = "list" ∧ second = "items" then (ofJson? v).map .list
      else if first = "type" ∧ kind = "ref" ∧ second = "name" then
        match v with
        | .string className => some (.ref className)
        | _ => none
      else none
  | _ => none

theorem ofJson?_toJson (t : FieldType) : ofJson? t.toJson = some t := by
  induction t with
  | leaf name => simp [toJson, ofJson?]
  | list items ih => simp [toJson, ofJson?, ih]
  | ref className => simp [toJson, ofJson?]

/-- No two types have the same JSON form. -/
theorem toJson_injective {t t' : FieldType} (h : t.toJson = t'.toJson) : t = t' := by
  have hdecoded := ofJson?_toJson t
  rw [h, ofJson?_toJson t'] at hdecoded
  exact (Option.some.inj hdecoded).symm

/-- The names of the classes that a type refers to are `spelled` in some way. -/
def Spelled (spelled : Points → Prop) : FieldType → Prop
  | leaf _ => True
  | list items => items.Spelled spelled
  | ref className => spelled className

theorem spelled_true (t : FieldType) : t.Spelled fun _ => True := by
  induction t with
  | leaf name => trivial
  | list items ih => exact ih
  | ref className => trivial

private theorem plain_toJson {spelled : Points → Prop} (hstring : ∀ s : String, spelled s)
    {t : FieldType} (h : t.Spelled spelled) : t.toJson.Plain spelled := by
  induction t with
  | leaf name => exact .string (hstring name)
  | list items ih =>
    exact .object (by simp) (by simp [hstring]) (by simp [ih h, hstring, Tree.Plain.string])
  | ref className =>
    have hname : spelled className := h
    exact .object (by simp) (by simp [hstring]) (by simp [hname, hstring, Tree.Plain.string])

/-- How many objects the JSON form of a type has in one another. -/
def nesting : FieldType → Nat
  | leaf _ => 0
  | list items => items.nesting + 1
  | ref _ => 1

private theorem nesting_toJson (t : FieldType) : t.toJson.nesting = t.nesting := by
  induction t with
  | leaf name => rfl
  | list items ih => simp [toJson, nesting, Tree.nesting, Tree.nestingOfMembers, ih]
  | ref className => rfl

theorem Showable.nesting_le {t : FieldType} (h : t.Showable) : t.nesting ≤ 2 := by
  have hsingle : ∀ {t : FieldType}, t.Single → t.nesting ≤ 1 := by
    intro t h
    cases h <;> exact Nat.le_of_ble_eq_true rfl
  cases h with
  | single h => exact Nat.le_succ_of_le (hsingle h)
  | list h => exact Nat.succ_le_succ (hsingle h)
  | untyped => decide

end FieldType

/-! ## Registries -/

/-- What a model tells of a class: its name, and its fields in order. -/
def InferredClass.outline (c : InferredClass) : Points × List InferredField := (c.name, c.fields)

/-- What a model tells of a registry: the outlines of its classes in order. -/
def Registry.outline (r : Registry) : List (Points × List InferredField) :=
  r.classes.map (·.outline)

def InferredField.ofJson? : Document → Option InferredField
  | .object [(first, .string name), (second, type)] =>
      if first = "name" ∧ second = "type" then
        (FieldType.ofJson? type).map fun type => { name, type }
      else none
  | _ => none

def InferredClass.ofJson? : Document → Option (Points × List InferredField)
  | .object [(first, .string name), (second, .array fields)] =>
      if first = "name" ∧ second = "fields" then
        (fields.mapM InferredField.ofJson?).map fun fields => (name, fields)
      else none
  | _ => none

def Registry.ofJson? : Document → Option (List (Points × List InferredField))
  | .object [(key, .array classes)] =>
      if key = "classes" then classes.mapM InferredClass.ofJson? else none
  | _ => none

theorem mapM_map_eq_some {α β γ : Type} {decode : β → Option γ} {encode : α → β} {part : α → γ}
    (h : ∀ a, decode (encode a) = some (part a)) (as : List α) :
    (as.map encode).mapM decode = some (as.map part) := by
  induction as with
  | nil => rfl
  | cons a as ih => simp [List.mapM_cons, h a, ih]

theorem InferredField.ofJson?_toJson (f : InferredField) : ofJson? f.toJson = some f := by
  rw [toJson, ofJson?, if_pos ⟨rfl, rfl⟩, FieldType.ofJson?_toJson]
  rfl

theorem InferredClass.ofJson?_toJson (c : InferredClass) : ofJson? c.toJson = some c.outline := by
  rw [toJson, ofJson?, if_pos ⟨rfl, rfl⟩, mapM_map_eq_some InferredField.ofJson?_toJson,
    List.map_id']
  rfl

/-- The outline of a registry is decoded from its JSON form. -/
theorem Registry.ofJson?_toJson (r : Registry) : ofJson? r.toJson = some r.outline := by
  rw [toJson, ofJson?, if_pos rfl]
  exact mapM_map_eq_some InferredClass.ofJson?_toJson r.classes

/-! ## Nesting -/

/-- The names of a registry are `spelled` in some way: those of its classes and of their
fields, and those that the types refer to. -/
def Registry.Spelled (spelled : Points → Prop) (r : Registry) : Prop :=
  ∀ c ∈ r.classes, spelled c.name ∧
    ∀ f ∈ c.fields, spelled f.name ∧ f.type.Spelled spelled

section

variable {spelled : Points → Prop} (hstring : ∀ s : String, spelled s)

include hstring

theorem InferredField.plain_toJson {f : InferredField} (hname : spelled f.name)
    (htype : f.type.Spelled spelled) : f.toJson.Plain spelled :=
  .object (by simp) (by simp [hstring])
    (by simp [hname, Tree.Plain.string, FieldType.plain_toJson hstring htype])

theorem InferredClass.plain_toJson {c : InferredClass} (hname : spelled c.name)
    (hfields : ∀ f ∈ c.fields, spelled f.name ∧ f.type.Spelled spelled) :
    c.toJson.Plain spelled := by
  have harray : (Tree.array (c.fields.map (·.toJson))).Plain spelled :=
    .array (List.forall_mem_map.mpr fun f hf =>
      InferredField.plain_toJson hstring (hfields f hf).1 (hfields f hf).2)
  exact .object (by simp) (by simp [hstring]) (by simp [hname, Tree.Plain.string, harray])

theorem Registry.plain_toJson {r : Registry} (h : r.Spelled spelled) :
    r.toJson.Plain spelled := by
  have hclasses : (Tree.array (r.classes.map (·.toJson))).Plain spelled :=
    .array (List.forall_mem_map.mpr fun c hc =>
      InferredClass.plain_toJson hstring (h c hc).1 (h c hc).2)
  exact .object (by simp) (by simp [hstring]) (by simp [hclasses])

end

private theorem nestingOfItems_le {α : Type} {toJson : α → Document} {n : Nat} {as : List α}
    (h : ∀ a ∈ as, (toJson a).nesting ≤ n) : Tree.nestingOfItems (as.map toJson) ≤ n := by
  induction as with
  | nil => exact Nat.zero_le n
  | cons a as ih =>
    obtain ⟨ha, has⟩ := List.forall_mem_cons.mp h
    rw [List.map_cons, Tree.nestingOfItems]
    exact Nat.max_le.mpr ⟨ha, ih has⟩

/-- The JSON form of a registry is nested five levels deeper than its types. -/
theorem Registry.nesting_toJson_le {r : Registry} {n : Nat}
    (h : ∀ c ∈ r.classes, ∀ f ∈ c.fields, f.type.nesting ≤ n) : r.toJson.nesting ≤ n + 5 := by
  have hfield : ∀ f : InferredField, f.toJson.nesting = f.type.nesting + 1 := by
    intro f
    simp [InferredField.toJson, Tree.nesting, Tree.nestingOfMembers, FieldType.nesting_toJson]
  have hclass : ∀ c ∈ r.classes, c.toJson.nesting ≤ n + 3 := by
    intro c hc
    have hfields : Tree.nestingOfItems (c.fields.map (·.toJson)) ≤ n + 1 :=
      nestingOfItems_le fun f hf => hfield f ▸ Nat.succ_le_succ (h c hc f hf)
    simpa [InferredClass.toJson, Tree.nesting, Tree.nestingOfMembers] using hfields
  have hclasses : Tree.nestingOfItems (r.classes.map (·.toJson)) ≤ n + 3 :=
    nestingOfItems_le hclass
  simpa [Registry.toJson, Tree.nesting, Tree.nestingOfMembers] using hclasses

end SampleSchema.Schema
