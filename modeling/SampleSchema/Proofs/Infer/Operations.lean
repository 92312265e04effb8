import Mathlib.Data.List.DropRight
import SampleSchema.Infer.Operation
import SampleSchema.Naming.Singular
import SampleSchema.Schema.Export
import SampleSchema.Proofs.Infer.History
/-!
What a registry shows after any operations on a new one, told from the operations.

* `latest_snoc`: putting fields one after the other leaves the latest of each
  property, in the order of the first puts;
* `classTold_snoc`: an operation changes each class on its own;
* `told_snoc`, `registryAfter_eq_told`: one operation after the others, and so all
  of them, leave the registry that they tell;
* `get?_append`, `snapshot_append`: what later operations leave as it is;
* `registryAfter_consistent`: names, lookups, observed and finalized fields of every
  registry that operations lead to.
-/

namespace SampleSchema.Infer

open Json Schema Text

variable {singular : Points → Points}

/-! ## Histories -/

namespace Operation

def asked? : Operation → Option Points
  | getOrCreate name => some name
  | _ => none

def target? : Operation → Option Points
  | getOrCreate name => some name
  | put name _ => some name
  | finalize name => some name
  | resolve _ _ => none

def fieldFor? (className : Points) : Operation → Option InferredField
  | put name f => if name = className then some f else none
  | _ => none

def finalizes (className : Points) : Operation → Bool
  | finalize name => name == className
  | _ => false

/-- What an operation does to a class that is there. -/
def change (className : Points) : Operation → InferredClass → InferredClass
  | put name f, c => if className = name then c.put f else c
  | finalize name, c => if className = name then c.finalize else c
  | _, c => c

private theorem change_of_target {op : Operation} {className : Points}
    (h : op.target? ≠ some className) (c : InferredClass) : op.change className c = c := by
  cases op with
  | getOrCreate name => rfl
  | put name f => exact if_neg fun e => h (by rw [e]; rfl)
  | finalize name => exact if_neg fun e => h (by rw [e]; rfl)
  | resolve property v => rfl

end Operation

def asked (ops : List Operation) : List Points := ops.filterMap (·.asked?)

/-- The fields that were put into a class. Before it was first asked for there was
nothing to put them into. -/
def fieldsPut (name : Points) (ops : List Operation) : List InferredField :=
  (ops.dropWhile fun op => op.asked? != some name).filterMap (·.fieldFor? name)

/-- The operations up to the last one that finalizes a class. -/
def throughFinalize (name : Points) (ops : List Operation) : List Operation :=
  ops.rdropWhile fun op => !op.finalizes name

section
variable {name : Points} {ops : List Operation}

theorem asked_snoc (ops : List Operation) (op : Operation) :
    asked (ops ++ [op]) = asked ops ++ op.asked?.toList := by
  simp only [asked, List.filterMap_append]
  cases h : op.asked? <;> simp [h]

theorem mem_asked : name ∈ asked ops ↔ ∃ op ∈ ops, op.asked? = some name := List.mem_filterMap

theorem asked_mono {front : List Operation} (hp : front <+: ops) (h : name ∈ asked front) :
    name ∈ asked ops := (hp.filterMap _).subset h

theorem dropWhile_of_not_asked (h : name ∉ asked ops) :
    (ops.dropWhile fun op => op.asked? != some name) = [] := by
  rw [List.dropWhile_eq_nil_iff]
  intro op hop
  simp only [bne_iff_ne]
  exact fun he => h (mem_asked.mpr ⟨op, hop, he⟩)

theorem fieldsPut_of_not_asked (h : name ∉ asked ops) : fieldsPut name ops = [] := by
  rw [fieldsPut, dropWhile_of_not_asked h, List.filterMap_nil]

theorem fieldsPut_snoc (name : Points) (ops : List Operation) (op : Operation) :
    fieldsPut name (ops ++ [op]) =
      if name ∈ asked ops then fieldsPut name ops ++ (op.fieldFor? name).toList else [] := by
  rw [fieldsPut, List.dropWhile_append]
  by_cases h : name ∈ asked ops
  · obtain ⟨a, ha, hn⟩ := mem_asked.mp h
    have hne : ops.dropWhile (fun op => op.asked? != some name) ≠ [] := by
      intro he
      exact absurd hn (by simpa using List.dropWhile_eq_nil_iff.mp he a ha)
    rw [if_neg (by simpa using hne), if_pos h, List.filterMap_append, fieldsPut]
    cases hf : op.fieldFor? name <;> simp [hf]
  · -- What is left is the operation itself if it is the first to ask, and that puts nothing.
    rw [if_pos (by simp [dropWhile_of_not_asked h]), if_neg h]
    cases op with
    | getOrCreate n => by_cases hn : n = name <;> simp [Operation.asked?, Operation.fieldFor?, hn]
    | _ => simp [Operation.asked?]

private theorem prefix_throughFinalize (name : Points) (ops : List Operation) :
    throughFinalize name ops <+: ops := List.rdropWhile_prefix _ _

theorem throughFinalize_snoc (name : Points) (ops : List Operation) (op : Operation) :
    throughFinalize name (ops ++ [op]) =
      if op.finalizes name then ops ++ [op] else throughFinalize name ops := by
  rw [throughFinalize, List.rdropWhile_concat]
  cases op.finalizes name <;> rfl

private theorem throughFinalize_append (name : Points) (ops : List Operation)
    {more : List Operation} (h : ∀ op ∈ more, op.finalizes name = false) :
    throughFinalize name (ops ++ more) = throughFinalize name ops := by
  induction more using List.reverseRecOn with
  | nil => rw [List.append_nil]
  | append_singleton more op ih =>
    rw [← List.append_assoc, throughFinalize_snoc, h op (by simp)]
    exact ih fun o ho => h o (List.mem_append_left _ ho)

end

/-! ## The latest fields -/

/-- The last field for each property, in the order in which the properties first
come up. -/
def latest (fields : List InferredField) : List InferredField :=
  (fields.map (·.name)).eraseDups.filterMap fun property =>
    fields.reverse.find? (·.name == property)

private theorem find?_reverse_snoc (fields : List InferredField) (f : InferredField)
    (property : Points) :
    (fields ++ [f]).reverse.find? (·.name == property) =
      if f.name = property then some f else fields.reverse.find? (·.name == property) := by
  rw [List.reverse_append, List.reverse_singleton, List.singleton_append, List.find?_cons]
  by_cases h : f.name = property
  · simp [h]
  · simp [h, beq_false_of_ne h]

private theorem exists_last {fields : List InferredField} {property : Points}
    (h : property ∈ fields.map (·.name)) :
    ∃ f, fields.reverse.find? (·.name == property) = some f ∧ f.name = property := by
  obtain ⟨g, hg, hn⟩ := List.mem_map.mp h
  have hsome : (fields.reverse.find? (·.name == property)).isSome :=
    List.find?_isSome.mpr ⟨g, List.mem_reverse.mpr hg, by simpa using hn⟩
  obtain ⟨f, hf⟩ := Option.isSome_iff_exists.mp hsome
  exact ⟨f, hf, by simpa using List.find?_some hf⟩

theorem names_latest (fields : List InferredField) :
    (latest fields).map (·.name) = (fields.map (·.name)).eraseDups := by
  rw [latest, List.map_filterMap]
  conv => rhs; rw [← List.filterMap_some (l := (fields.map (·.name)).eraseDups)]
  apply List.filterMap_congr
  intro property hp
  obtain ⟨f, hf, hn⟩ := exists_last (List.mem_eraseDups.mp hp)
  rw [hf, Option.map_some, hn]

theorem nodup_latest (fields : List InferredField) : ((latest fields).map (·.name)).Nodup := by
  rw [names_latest]
  exact nodup_eraseDups (fields.map (·.name))

theorem find?_latest (fields : List InferredField) (property : Points) :
    (latest fields).find? (·.name == property) = fields.reverse.find? (·.name == property) := by
  apply Option.ext
  intro f
  rw [find?_key_eq_some_iff _ (nodup_latest fields), latest, List.mem_filterMap]
  constructor
  · rintro ⟨⟨p, -, hf⟩, hn⟩
    have hp : f.name = p := by simpa using List.find?_some hf
    rw [← hn, hp]
    exact hf
  · intro hf
    have hn : f.name = property := by simpa using List.find?_some hf
    have hm := List.mem_reverse.mp (List.mem_of_find?_eq_some hf)
    exact ⟨⟨property, List.mem_eraseDups.mpr (hn ▸ List.mem_map_of_mem hm), hf⟩, hn⟩

/-- Fields of distinct names are known from the order of the names and from what is
found under each of them. -/
theorem eq_filterMap_find? {fields : List InferredField} (h : (fields.map (·.name)).Nodup) :
    fields = (fields.map (·.name)).filterMap fun p => fields.find? (·.name == p) := by
  rw [List.filterMap_map]
  conv => lhs; rw [← List.filterMap_some (l := fields)]
  apply List.filterMap_congr
  intro f hf
  exact ((find?_key_eq_some_iff _ h f f.name).mpr ⟨hf, rfl⟩).symm

theorem latest_snoc (fields : List InferredField) (f : InferredField) :
    latest (fields ++ [f]) = f.put (latest fields) := by
  have hnames : (latest (fields ++ [f])).map (·.name) = (f.put (latest fields)).map (·.name) := by
    rw [names_latest, List.map_append, List.map_singleton, eraseDups_snoc,
      InferredField.names_put, names_latest]
  have hfind : ∀ property, (latest (fields ++ [f])).find? (·.name == property) =
      (f.put (latest fields)).find? (·.name == property) := by
    intro property
    rw [find?_latest, find?_reverse_snoc, InferredField.find?_put, find?_latest]
  rw [eq_filterMap_find? (nodup_latest (fields ++ [f])),
    eq_filterMap_find? (InferredField.nodup_put f (nodup_latest fields)), hnames]
  simp only [hfind]

/-! ## A class -/

def classTold (ops : List Operation) (name : Points) : InferredClass where
  name := name
  observed := latest (fieldsPut name ops)
  fields := InferredField.sortByName (latest (fieldsPut name (throughFinalize name ops)))

/-- The operation that first asks for a class finds nothing in it. -/
theorem classTold_snoc_of_not_asked {name : Points} {ops : List Operation}
    (h : name ∉ asked ops) (op : Operation) :
    classTold (ops ++ [op]) name = { name := name } := by
  have hput : fieldsPut name (ops ++ [op]) = [] := by rw [fieldsPut_snoc, if_neg h]
  have hfinal : fieldsPut name (throughFinalize name (ops ++ [op])) = [] := by
    rw [throughFinalize_snoc]
    split
    · exact hput
    · exact fieldsPut_of_not_asked fun hm => h (asked_mono (prefix_throughFinalize name ops) hm)
  rw [classTold, hput, hfinal]
  rfl

/-- An operation changes each class on its own. -/
theorem classTold_snoc {name : Points} {ops : List Operation} (h : name ∈ asked ops)
    (op : Operation) :
    classTold (ops ++ [op]) name = op.change name (classTold ops name) := by
  simp only [classTold, fieldsPut_snoc, throughFinalize_snoc, if_pos h]
  cases op with
  | getOrCreate n => simp [Operation.fieldFor?, Operation.finalizes, Operation.change]
  | put n f =>
    by_cases hn : name = n
    · simp [Operation.fieldFor?, Operation.finalizes, Operation.change, ← hn, latest_snoc,
        InferredClass.put]
    · simp [Operation.fieldFor?, Operation.finalizes, Operation.change, hn, Ne.symm hn]
  | finalize n =>
    by_cases hn : name = n
    · simp [Operation.fieldFor?, Operation.finalizes, Operation.change, ← hn, fieldsPut_snoc, h,
        InferredClass.finalize]
    · simp [Operation.fieldFor?, Operation.finalizes, Operation.change, hn, Ne.symm hn]
  | resolve property v => simp [Operation.fieldFor?, Operation.finalizes, Operation.change]

/-! ## The registry -/

/-- What an operation leaves of a registry. A class that is not there is not
changed. -/
theorem fst_perform (r : Registry) (op : Operation) :
    (op.perform singular r).1 =
      match op with
      | .getOrCreate name => r.create name
      | .put name f => r.put name f
      | .finalize name => r.modify name (·.finalize)
      | .resolve _ _ => r := by
  cases op with
  | getOrCreate name =>
    rw [Operation.perform]
    cases h : r.get? name with
    | some c =>
      have hc : r.contains name = true :=
        (r.contains_iff name).mpr ((r.mem_names_iff_get? name).mpr ⟨c, h⟩)
      simp [Registry.create, hc]
    | none => rfl
  | put name f =>
    rw [Operation.perform]
    cases h : r.get? name with
    | some c => rfl
    | none => exact (Registry.modify_of_not_mem (Registry.get?_eq_none_iff.mp h) _).symm
  | finalize name =>
    rw [Operation.perform]
    cases h : r.get? name with
    | some c => rfl
    | none => exact (Registry.modify_of_not_mem (Registry.get?_eq_none_iff.mp h) _).symm
  | resolve property v => rfl

/-- An operation that asks for no class changes each class on its own. -/
theorem classes_perform {op : Operation} (h : op.asked? = none) (r : Registry) :
    (op.perform singular r).1.classes = r.classes.map fun c => op.change c.name c := by
  rw [fst_perform]
  cases op with
  | getOrCreate name => cases h
  | put name f => rfl
  | finalize name => rfl
  | resolve property v => exact (List.map_id _).symm

/-- To finalize some classes one after the other is to finalize each of them. -/
theorem foldl_finalize (names : List Points) (r : Registry) :
    (names.map Operation.finalize).foldl (fun r op => (op.perform singular r).1) r =
      ⟨r.classes.map fun c => if c.name ∈ names then c.finalize else c⟩ := by
  induction names generalizing r with
  | nil => simp
  | cons name names ih =>
    rw [List.map_cons, List.foldl_cons, ih, classes_perform rfl, List.map_map]
    congr 1
    apply List.map_congr_left
    intro c _
    simp only [Function.comp_apply, Operation.change]
    have hname : c.finalize.name = c.name := rfl
    have htwice : c.finalize.finalize = c.finalize := rfl
    by_cases hn : c.name = name <;> by_cases hm : c.name ∈ names <;>
      simp [hn, hm, hname, htwice]

def told (ops : List Operation) : Registry := ⟨(asked ops).eraseDups.map (classTold ops)⟩

theorem names_told (ops : List Operation) : (told ops).names = (asked ops).eraseDups := by
  simp [Registry.names, told, classTold, Function.comp_def]

private theorem contains_told (ops : List Operation) (name : Points) :
    (told ops).contains name = true ↔ name ∈ (asked ops).eraseDups := by
  rw [Registry.contains_iff, names_told]

theorem map_classTold_snoc (ops : List Operation) (op : Operation) :
    (asked ops).eraseDups.map (classTold (ops ++ [op])) =
      (told ops).classes.map fun c => op.change c.name c := by
  rw [told, List.map_map]
  apply List.map_congr_left
  intro name hname
  exact classTold_snoc (List.mem_eraseDups.mp hname) op

private theorem told_snoc_getOrCreate (ops : List Operation) (name : Points) :
    told (ops ++ [.getOrCreate name]) = (told ops).create name := by
  have hkept : (asked ops).eraseDups.map (classTold (ops ++ [.getOrCreate name])) =
      (told ops).classes := (map_classTold_snoc ops _).trans (List.map_id _)
  have hasked : asked (ops ++ [.getOrCreate name]) = asked ops ++ [name] := asked_snoc ops _
  rw [told, hasked, eraseDups_snoc, Registry.create]
  by_cases hn : name ∈ (asked ops).eraseDups
  · rw [if_pos hn, if_pos ((contains_told ops name).mpr hn), hkept]
  · have hnew : name ∉ asked ops := fun h => hn (List.mem_eraseDups.mpr h)
    rw [if_neg hn, if_neg (fun h => hn ((contains_told ops name).mp h)), List.map_append, hkept,
      List.map_singleton, classTold_snoc_of_not_asked hnew]

private theorem told_snoc_of_asked? {op : Operation} (h : op.asked? = none) (ops : List Operation) :
    told (ops ++ [op]) = (op.perform singular (told ops)).1 := by
  have hasked : asked (ops ++ [op]) = asked ops := by
    rw [asked_snoc, h, Option.toList_none, List.append_nil]
  rw [told, hasked, map_classTold_snoc, ← classes_perform h]

/-- One more operation leaves what the operations with it tell. -/
theorem told_snoc (ops : List Operation) (op : Operation) :
    told (ops ++ [op]) = (op.perform singular (told ops)).1 := by
  cases op with
  | getOrCreate name =>
    rw [fst_perform]
    exact told_snoc_getOrCreate ops name
  | put name f => exact told_snoc_of_asked? rfl ops
  | finalize name => exact told_snoc_of_asked? rfl ops
  | resolve property v => exact told_snoc_of_asked? rfl ops

/-- After any operations a registry is what they tell. -/
theorem registryAfter_eq_told (ops : List Operation) : registryAfter singular ops = told ops := by
  induction ops using List.reverseRecOn with
  | nil => rfl
  | append_singleton ops op ih =>
    rw [told_snoc, ← ih, registryAfter, List.foldl_append]
    rfl

/-- Puts before and after a finalization, one of them into a class that is not there
yet. -/
def mixedOps : List Operation :=
  [.getOrCreate "a", .put "a" ⟨"y", .text⟩, .put "a" ⟨"x", .integer⟩, .put "b" ⟨"x", .text⟩,
    .finalize "a", .getOrCreate "b", .put "a" ⟨"y", .boolean⟩, .finalize "b",
    .resolve "b" .null, .getOrCreate "a"]

/-- The class `a` has shown another type for `y` since it was finalized. -/
def mixedClass : InferredClass where
  name := "a"
  observed := [⟨"y", .boolean⟩, ⟨"x", .integer⟩]
  fields := [⟨"x", .integer⟩, ⟨"y", .text⟩]

example : registryAfter Naming.singular mixedOps =
    ⟨[mixedClass, { name := "b" }]⟩ := by decide +kernel

/-! ## Names and classes -/

section
variable {name : Points} (ops : List Operation)

theorem names_registryAfter : (registryAfter singular ops).names = (asked ops).eraseDups := by
  rw [registryAfter_eq_told, names_told]

theorem nodup_names_registryAfter : (registryAfter singular ops).names.Nodup := by
  rw [names_registryAfter]
  exact nodup_eraseDups (asked ops)

private theorem names_registryAfter_kept (more : List Operation) :
    (registryAfter singular ops).names <+: (registryAfter singular (ops ++ more)).names := by
  rw [names_registryAfter, names_registryAfter, asked, asked, List.filterMap_append,
    List.eraseDups_append]
  exact List.prefix_append _ _

theorem get?_registryAfter (name : Points) :
    (registryAfter singular ops).get? name =
      if name ∈ asked ops then some (classTold ops name) else none := by
  split
  · rename_i h
    rw [Registry.get?_eq_some_iff (nodup_names_registryAfter ops), registryAfter_eq_told]
    exact ⟨List.mem_map_of_mem (List.mem_eraseDups.mpr h), rfl⟩
  · rename_i h
    rw [Registry.get?_eq_none_iff, names_registryAfter, List.mem_eraseDups]
    exact h

variable {ops}

private theorem mem_registryAfter {c : InferredClass} :
    c ∈ (registryAfter singular ops).classes ↔ ∃ name ∈ asked ops, classTold ops name = c := by
  simp only [registryAfter_eq_told, told, List.mem_map, List.mem_eraseDups]

private theorem perform_first (h : name ∉ asked ops) :
    (Operation.getOrCreate name).perform singular (registryAfter singular ops) =
      (⟨(registryAfter singular ops).classes ++ [{ name := name }]⟩,
        .got { name := name } true) := by
  have hget : (registryAfter singular ops).get? name = none := by rw [get?_registryAfter, if_neg h]
  have hnew : (registryAfter singular ops).contains name ≠ true := by
    rw [Ne, Registry.contains_iff, names_registryAfter, List.mem_eraseDups]
    exact h
  rw [Operation.perform, hget, Registry.create, if_neg hnew]

private theorem perform_again (h : name ∈ asked ops) :
    (Operation.getOrCreate name).perform singular (registryAfter singular ops) =
      (registryAfter singular ops, .got (classTold ops name) false) := by
  rw [Operation.perform, get?_registryAfter, if_pos h]

private theorem finalize_registryAfter (ops : List Operation) :
    (registryAfter singular ops).finalize =
      registryAfter singular
        (ops ++ (registryAfter singular ops).names.map Operation.finalize) := by
  have hall : (registryAfter singular ops).classes.map (·.finalize) =
      (registryAfter singular ops).classes.map
      fun c => if c.name ∈ (registryAfter singular ops).names then c.finalize else c := by
    apply List.map_congr_left
    intro c hc
    exact (if_pos (List.mem_map_of_mem hc)).symm
  rw [Registry.finalize, hall, ← foldl_finalize, registryAfter, registryAfter, List.foldl_append]

/-- Operations on other classes leave a class as it is. -/
theorem get?_append {more : List Operation} (h : ∀ op ∈ more, op.target? ≠ some name) :
    (registryAfter singular (ops ++ more)).get? name = (registryAfter singular ops).get? name := by
  induction more using List.reverseRecOn with
  | nil => rw [List.append_nil]
  | append_singleton more op ih =>
    have ht : op.target? ≠ some name := h op (by simp)
    have hasked : name ∈ asked (ops ++ more ++ [op]) ↔ name ∈ asked (ops ++ more) := by
      rw [asked_snoc, List.mem_append, or_iff_left]
      intro hm
      cases op with
      | getOrCreate n => exact ht (by rw [List.mem_singleton.mp hm]; rfl)
      | _ => cases hm
    rw [← ih fun o ho => h o (List.mem_append_left _ ho), ← List.append_assoc,
      get?_registryAfter, get?_registryAfter, if_congr hasked rfl rfl]
    split
    · rename_i hn
      rw [classTold_snoc hn, Operation.change_of_target ht]
    · rfl

end

/-! ## Finalized fields -/

/-- The fields that a registry has observed in a class. -/
def observedIn (r : Registry) (name : Points) : List InferredField :=
  (r.get? name).elim [] (·.observed)

/-- What a class had observed when it was last finalized, in the order of the code
points of the names. Nothing if it never was. -/
def snapshot (singular : Points → Points) (ops : List Operation) (name : Points) :
    List InferredField :=
  (observedIn (registryAfter singular (throughFinalize name ops)) name).mergeSort fun f g =>
    f.name ≤ g.name

theorem observedIn_registryAfter (ops : List Operation) (name : Points) :
    observedIn (registryAfter singular ops) name = latest (fieldsPut name ops) := by
  rw [observedIn, get?_registryAfter]
  split
  · rfl
  · rename_i h
    rw [fieldsPut_of_not_asked h]
    rfl

theorem fields_classTold (singular : Points → Points) (ops : List Operation) (name : Points) :
    (classTold ops name).fields = snapshot singular ops name := by
  rw [snapshot, observedIn_registryAfter, InferredField.mergeSort_eq_sortByName (nodup_latest _)]
  rfl

theorem snapshot_append (name : Points) (ops : List Operation) {more : List Operation}
    (h : ∀ op ∈ more, op.finalizes name = false) :
    snapshot singular (ops ++ more) name = snapshot singular ops name := by
  rw [snapshot, throughFinalize_append name ops h, snapshot]

private theorem snapshot_of_not_finalized {name : Points} {ops : List Operation}
    (h : ∀ op ∈ ops, op.finalizes name = false) : snapshot singular ops name = [] := by
  rw [← List.nil_append ops, snapshot_append name [] h, ← fields_classTold]
  rfl

private theorem sorted_classTold (ops : List Operation) (name : Points) :
    (classTold ops name).fields.Pairwise (·.name < ·.name) :=
  InferredField.sortByName_strict (nodup_latest _)

/-- A lookup finds what the property showed when the class was last finalized. -/
theorem field?_classTold (ops : List Operation) (name property : Points) :
    (classTold ops name).field? property =
      (registryAfter singular (throughFinalize name ops)).observed? name property := by
  have hobserved : (registryAfter singular (throughFinalize name ops)).observed? name property =
      (observedIn (registryAfter singular (throughFinalize name ops)) name).find?
        (·.name == property) := by
    rw [Registry.observed?, observedIn]
    cases (registryAfter singular (throughFinalize name ops)).get? name <;> rfl
  rw [hobserved, observedIn_registryAfter]
  exact InferredField.find?_sortByName (nodup_latest _) property

private theorem toJson_registryAfter (ops : List Operation) :
    (registryAfter singular ops).toJson =
      .object [("classes", .array ((registryAfter singular ops).names.map fun name =>
        .object [("name", .string name),
          ("fields", .array ((snapshot singular ops name).map (·.toJson)))]))] := by
  rw [Registry.toJson, names_registryAfter, registryAfter_eq_told, told, List.map_map]
  congr 5
  funext name
  rw [Function.comp_apply, InferredClass.toJson, fields_classTold]
  rfl

/-! ## Every run -/

/-- What a registry shows that some operations on a new one have led to. -/
structure Consistent (singular : Points → Points) (ops : List Operation) (r : Registry) :
    Prop where
  /-- The names are those asked for, in the order in which they first were. -/
  names : r.names = (asked ops).eraseDups
  distinct : r.names.Nodup
  /-- Whatever follows, no name goes and none moves. -/
  kept : ∀ more, r.names <+: (registryAfter singular (ops ++ more)).names
  /-- Under a name there is the class of that name. -/
  mapped : ∀ name c, r.get? name = some c ↔ c ∈ r.classes ∧ c.name = name
  /-- The first to ask for a name creates an empty class at the end. -/
  created : ∀ name, name ∉ asked ops → (Operation.getOrCreate name).perform singular r =
    (⟨r.classes ++ [{ name := name }]⟩, .got { name := name } true)
  /-- All others get the class that is there, and change nothing. -/
  reused : ∀ name, name ∈ asked ops → ∃ c, r.get? name = some c ∧
    (Operation.getOrCreate name).perform singular r = (r, .got c false)
  /-- Properties are observed in the order of their first puts. -/
  first_puts : ∀ c ∈ r.classes,
    c.observed.map (·.name) = ((fieldsPut c.name ops).map (·.name)).eraseDups
  /-- A property shows the last field put under it. -/
  last_put : ∀ c ∈ r.classes, ∀ property,
    c.observed? property = (fieldsPut c.name ops).reverse.find? (·.name == property)
  /-- The finalized fields are those observed at the last finalization. -/
  fields : ∀ c ∈ r.classes, c.fields = snapshot singular ops c.name
  sorted : ∀ c ∈ r.classes, c.fields.Pairwise (·.name < ·.name)
  unfinalized : ∀ c ∈ r.classes, (∀ op ∈ ops, op.finalizes c.name = false) → c.fields = []
  /-- A lookup finds what the property showed at the last finalization. -/
  field : ∀ c ∈ r.classes, ∀ property, c.field? property =
    (registryAfter singular (throughFinalize c.name ops)).observed? c.name property
  /-- The export has the names and the finalized fields. -/
  exported : r.toJson = .object [("classes", .array (r.names.map fun name =>
    .object [("name", .string name),
      ("fields", .array ((snapshot singular ops name).map (·.toJson)))]))]
  /-- Until a class is finalized again its finalized fields stay, whatever is put. -/
  fields_kept : ∀ more, ∀ c ∈ r.classes, (∀ op ∈ more, op.finalizes c.name = false) →
    ∃ d ∈ (registryAfter singular (ops ++ more)).classes, d.name = c.name ∧ d.fields = c.fields
  /-- To finalize the registry is to finalize its classes one after the other. -/
  finalized : r.finalize = registryAfter singular (ops ++ r.names.map Operation.finalize)
  /-- Operations on other classes leave a class as it is. -/
  frame : ∀ more name, (∀ op ∈ more, op.target? ≠ some name) →
    (registryAfter singular (ops ++ more)).get? name = r.get? name

/-- Whatever the operations on a new registry are, its names stay in the order of
their first use, a property shows the last field put under it, and the finalized
fields are those of the last finalization. -/
theorem registryAfter_consistent (singular : Points → Points) (ops : List Operation) :
    Consistent singular ops (registryAfter singular ops) where
  names := names_registryAfter ops
  distinct := nodup_names_registryAfter ops
  kept := names_registryAfter_kept ops
  mapped name c := Registry.get?_eq_some_iff (nodup_names_registryAfter ops) c name
  created _ := perform_first
  reused name h := ⟨classTold ops name, by rw [get?_registryAfter, if_pos h], perform_again h⟩
  first_puts c hc := by
    obtain ⟨name, _, rfl⟩ := mem_registryAfter.mp hc
    exact names_latest _
  last_put c hc property := by
    obtain ⟨name, _, rfl⟩ := mem_registryAfter.mp hc
    exact find?_latest _ property
  fields c hc := by
    obtain ⟨name, _, rfl⟩ := mem_registryAfter.mp hc
    exact fields_classTold singular ops name
  sorted c hc := by
    obtain ⟨name, _, rfl⟩ := mem_registryAfter.mp hc
    exact sorted_classTold ops name
  unfinalized c hc h := by
    obtain ⟨name, _, rfl⟩ := mem_registryAfter.mp hc
    rw [fields_classTold singular]
    exact snapshot_of_not_finalized h
  field c hc property := by
    obtain ⟨name, _, rfl⟩ := mem_registryAfter.mp hc
    exact field?_classTold ops name property
  exported := toJson_registryAfter ops
  fields_kept more c hc h := by
    obtain ⟨name, hname, rfl⟩ := mem_registryAfter.mp hc
    have hmore : name ∈ asked (ops ++ more) := asked_mono (List.prefix_append ops more) hname
    refine ⟨classTold (ops ++ more) name, mem_registryAfter.mpr ⟨name, hmore, rfl⟩, rfl, ?_⟩
    rw [fields_classTold singular, fields_classTold singular, snapshot_append name ops h]
  finalized := finalize_registryAfter ops
  frame _ _ := get?_append

theorem mixedOps_consistent :
    mixedClass ∈ (registryAfter Naming.singular mixedOps).classes ∧
    mixedClass.fields = snapshot Naming.singular mixedOps "a" ∧
    mixedClass.observed? "y" =
      (fieldsPut "a" mixedOps).reverse.find? (·.name == ("y" : Points)) ∧
    ("c" : Points) ∉ asked mixedOps ∧
    (Operation.getOrCreate "c").perform Naming.singular (registryAfter Naming.singular mixedOps) =
      (⟨[mixedClass, { name := "b" }, { name := "c" }]⟩, .got { name := "c" } true) := by
  have h := registryAfter_consistent Naming.singular mixedOps
  have hc : mixedClass ∈ (registryAfter Naming.singular mixedOps).classes := by decide +kernel
  have hnew : ("c" : Points) ∉ asked mixedOps := by decide
  have hclasses : (registryAfter Naming.singular mixedOps).classes =
      [mixedClass, { name := "b" }] := by
    decide +kernel
  refine ⟨hc, h.fields mixedClass hc, h.last_put mixedClass hc "y", hnew, ?_⟩
  rw [h.created "c" hnew, hclasses]
  rfl

end SampleSchema.Infer
