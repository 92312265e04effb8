import SampleSchema.Java.Member
import SampleSchema.Proofs.Java.Identifier
import SampleSchema.Proofs.Java.Numbering
/-!
The members of a Java class can be told apart.

* `Accessor`: the words that the accessor methods of a class are named by;
* `fieldOfBase_valid`, `fieldOfBase_injective`: such a word gives a valid field
  name, and another word gives another one;
* `accessorNames`: the words of the members of a class, all distinct;
* `members_unambiguous`: the names of fields, getters and setters are valid and
  distinct, whatever the properties are, and every setter assigns to its field.
-/

namespace SampleSchema.Java

open Naming Schema
open Text (Points)

/-! ## Accessor names -/

/-- Characters that accessor names keep of a property. -/
def isAccessorPart (c : Char) : Bool := c.isAlphanum || c == '$'

/-- A word after `get` and `set`. -/
structure Accessor (base : String) : Prop where
  ne_empty : base ≠ ""
  parts : ∀ c ∈ base.toList, isAccessorPart c = true

theorem isNamePart_of_isAccessorPart {c : Char} (h : isAccessorPart c = true) :
    isNamePart c = true := by
  simp only [isAccessorPart, Bool.or_eq_true] at h
  rcases h with h | h <;> simp [isNamePart, h]

theorem isAccessorPart_case {c : Char} (h : isAccessorPart c = true) :
    isAccessorPart c.toUpper = true ∧ isAccessorPart c.toLower = true := by
  refine Text.forall_ascii (P := fun c => isAccessorPart c = true →
    isAccessorPart c.toUpper = true ∧ isAccessorPart c.toLower = true) (by decide +kernel) c ?_ h
  exact toNat_lt_of_isNamePart (isNamePart_of_isAccessorPart h)

theorem Accessor.nameParts {base : String} (h : Accessor base) :
    ∀ c ∈ base.toList, isNamePart c = true :=
  fun c hc => isNamePart_of_isAccessorPart (h.parts c hc)

theorem Accessor.no_break {base : String} (h : Accessor base) : '\n' ∉ base.toList :=
  fun hc => absurd (h.parts '\n' hc) (by decide)

theorem Accessor.exists_cons {base : String} (h : Accessor base) :
    ∃ c rest, base.toList = c :: rest ∧ isAccessorPart c = true ∧
      ∀ d ∈ rest, isAccessorPart d = true := by
  cases hb : base.toList with
  | nil => exact absurd (String.toList_inj.mp hb) h.ne_empty
  | cons c rest =>
    have hparts := h.parts
    rw [hb] at hparts
    exact ⟨c, rest, rfl, hparts c (List.mem_cons_self ..),
      fun d hd => hparts d (List.mem_cons_of_mem _ hd)⟩

theorem accessor_of_cons {base : String} {c : Char} {rest : List Char}
    (hb : base.toList = c :: rest) (hc : isAccessorPart c = true)
    (hrest : ∀ d ∈ rest, isAccessorPart d = true) : Accessor base := by
  constructor
  · rintro rfl
    cases hb
  · rw [hb]
    intro d hd
    rcases List.mem_cons.mp hd with rfl | hd
    · exact hc
    · exact hrest d hd

theorem Accessor.append {front back : String} (h : Accessor front)
    (hback : ∀ c ∈ back.toList, isAccessorPart c = true) : Accessor (front ++ back) := by
  obtain ⟨c, rest, hf, hc, hrest⟩ := h.exists_cons
  have hcons : (front ++ back).toList = c :: (rest ++ back.toList) := by simp [hf]
  refine accessor_of_cons hcons hc ?_
  intro d hd
  rcases List.mem_append.mp hd with hd | hd
  · exact hrest d hd
  · exact hback d hd

theorem Accessor.upperFirst {base : String} (h : Accessor base) :
    Accessor (Naming.upperFirst base) := by
  obtain ⟨c, rest, hb, hc, hrest⟩ := h.exists_cons
  have hascii := toNat_lt_of_isNamePart (isNamePart_of_isAccessorPart hc)
  refine accessor_of_cons ?_ (isAccessorPart_case hc).1 hrest
  simp [Naming.upperFirst, hb, Text.upperFirst, Text.toUpper_ascii hascii]

theorem Accessor.lowerFirst {base : String} (h : Accessor base) :
    Accessor (Naming.lowerFirst base) := by
  obtain ⟨c, rest, hb, hc, hrest⟩ := h.exists_cons
  have hascii := toNat_lt_of_isNamePart (isNamePart_of_isAccessorPart hc)
  refine accessor_of_cons ?_ (isAccessorPart_case hc).2 hrest
  simp [Naming.lowerFirst, hb, Text.lowerFirst, Text.toLower_ascii hascii]

private theorem accessor_baseName (property : Points) : Accessor (baseName property) := by
  simp only [baseName]
  split
  · exact ⟨by decide, List.all_eq_true.mp (by decide)⟩
  · rename_i hkept
    apply Accessor.upperFirst
    constructor
    · intro he
      have hnil := congrArg String.toList he
      rw [String.toList_ofList] at hnil
      exact hkept (by rw [hnil]; rfl)
    · intro c hc
      rw [String.toList_ofList] at hc
      exact (List.mem_filter.mp hc).2

/-- Digits behind an accessor name leave it one. -/
theorem accessor_numbered {base name : String} {n : Nat} (h : Accessor base)
    (hname : name ∈ numbered base n) : Accessor name := by
  rcases List.mem_cons.mp hname with rfl | hname
  · exact h
  · obtain ⟨i, _, rfl⟩ := List.mem_map.mp hname
    apply h.append
    intro c hc
    rw [Nat.toString_eq_ofList_toDigits, String.toList_ofList] at hc
    have hd := Nat.isDigit_of_mem_toDigits (by decide) (by decide) hc
    simp [isAccessorPart, Char.isAlphanum, hd]

private theorem accessor_freeName (property : Points) (used : List String) :
    Accessor (freeName (baseName property) used) :=
  accessor_numbered (accessor_baseName property) (freeName_mem_numbered _ used)

/-! ## The names of one member -/

/-- The accessor name of a field with the letter that can go before it. -/
def prefixed (memberPrefix : Bool) (base : String) : String :=
  if memberPrefix then "m" ++ base else base

theorem accessor_prefixed (memberPrefix : Bool) {base : String} (h : Accessor base) :
    Accessor (prefixed memberPrefix base) := by
  cases memberPrefix with
  | false => exact h
  | true =>
    have hletter : Accessor "m" := ⟨by decide, List.all_eq_true.mp (by decide)⟩
    exact hletter.append h.parts

private theorem prefixed_injective (memberPrefix : Bool) {base base' : String}
    (h : prefixed memberPrefix base = prefixed memberPrefix base') : base = base' := by
  cases memberPrefix with
  | false => exact h
  | true => exact (String.append_right_inj "m").mp h

theorem fieldOfBase_cases (memberPrefix : Bool) (base : String) :
    isIdentifier (prefixed memberPrefix base) = true ∧
        fieldOfBase memberPrefix base = prefixed memberPrefix base ∨
      fieldOfBase memberPrefix base = "_" ++ prefixed memberPrefix base := by
  by_cases h : isIdentifier (prefixed memberPrefix base) = true
  · exact Or.inl ⟨h, if_pos h⟩
  · exact Or.inr (if_neg h)

theorem fieldOfBase_valid (memberPrefix : Bool) {base : String} (h : Accessor base) :
    ValidName (fieldOfBase memberPrefix base) := by
  have hp := accessor_prefixed memberPrefix h
  rcases fieldOfBase_cases memberPrefix base with ⟨hi, he⟩ | he
  · rw [he]
    exact validName_of_isIdentifier hi hp.no_break
  · rw [he]
    exact validName_append (by decide) (by decide +kernel) hp.nameParts hp.ne_empty

/-- No accessor name starts with an underscore. -/
theorem underscore_append_ne {base base' : String} (h : Accessor base') : "_" ++ base ≠ base' := by
  rintro rfl
  exact absurd (h.parts '_' (by simp)) (by decide)

theorem fieldOfBase_injective (memberPrefix : Bool) {base base' : String} (h : Accessor base)
    (h' : Accessor base') (he : fieldOfBase memberPrefix base = fieldOfBase memberPrefix base') :
    base = base' := by
  have hp := accessor_prefixed memberPrefix h
  have hp' := accessor_prefixed memberPrefix h'
  apply prefixed_injective memberPrefix
  rcases fieldOfBase_cases memberPrefix base with ⟨_, hf⟩ | hf <;>
    rcases fieldOfBase_cases memberPrefix base' with ⟨_, hf'⟩ | hf' <;>
    rw [hf, hf'] at he
  · exact he
  · exact absurd he.symm (underscore_append_ne hp)
  · exact absurd he (underscore_append_ne hp')
  · exact (String.append_right_inj "_").mp he

private theorem parameterName_valid {base : String} (h : Accessor base) :
    ValidName (parameterName base) := by
  by_cases hi : isIdentifier (lowerFirst base) = true
  · rw [parameterName, if_pos hi]
    exact validName_of_isIdentifier hi h.lowerFirst.no_break
  · rw [parameterName, if_neg hi]
    decide +kernel

/-! ## The members of a class -/

/-- The accessor names of fields that share a class, when some are in use. -/
def accessorNames : List String → List InferredField → List String
  | _, [] => []
  | used, f :: rest =>
      freeName (baseName f.name) used ::
        accessorNames (used ++ [freeName (baseName f.name) used]) rest

theorem membersOf_cons (style : Style) (used : List String) (f : InferredField)
    (rest : List InferredField) :
    (membersOf style used (f :: rest)).1 =
      memberOfBase style f (freeName (baseName f.name) used) ::
        (membersOf style (used ++ [freeName (baseName f.name) used]) rest).1 := rfl

/-- The accessor names are new. -/
theorem not_mem_of_mem_accessorNames {used : List String} {fields : List InferredField}
    {base : String} (h : base ∈ accessorNames used fields) : base ∉ used := by
  induction fields generalizing used with
  | nil => cases h
  | cons f rest ih =>
    rcases List.mem_cons.mp h with rfl | h
    · exact freeName_not_mem _ used
    · exact fun hu => ih h (List.mem_append_left _ hu)

private theorem nodup_accessorNames (used : List String) (fields : List InferredField) :
    (accessorNames used fields).Nodup := by
  induction fields generalizing used with
  | nil => exact List.nodup_nil
  | cons f rest ih =>
    rw [accessorNames, List.nodup_cons]
    exact ⟨fun h => not_mem_of_mem_accessorNames h (by simp), ih _⟩

theorem accessor_of_mem_accessorNames {used : List String} {fields : List InferredField}
    {base : String} (h : base ∈ accessorNames used fields) : Accessor base := by
  induction fields generalizing used with
  | nil => cases h
  | cons f rest ih =>
    rcases List.mem_cons.mp h with rfl | h
    · exact accessor_freeName f.name used
    · exact ih h

theorem exists_of_mem_membersOf {style : Style} {used : List String}
    {fields : List InferredField} {m : Member} (h : m ∈ (membersOf style used fields).1) :
    ∃ f ∈ fields, ∃ base ∈ accessorNames used fields, m = memberOfBase style f base := by
  induction fields generalizing used with
  | nil => cases h
  | cons f rest ih =>
    rw [membersOf_cons] at h
    rcases List.mem_cons.mp h with rfl | h
    · exact ⟨f, List.mem_cons_self .., _, List.mem_cons_self .., rfl⟩
    · obtain ⟨g, hg, base, hbase, rfl⟩ := ih h
      exact ⟨g, List.mem_cons_of_mem _ hg, base, List.mem_cons_of_mem _ hbase, rfl⟩

/-- There is one member for each field, in the order of the fields: what depends on
the field alone is the same of both. -/
theorem map_membersOf {α : Type} {style : Style} {part : Member → α} {ofField : InferredField → α}
    (hpart : ∀ f base, part (memberOfBase style f base) = ofField f) (used : List String)
    (fields : List InferredField) :
    (membersOf style used fields).1.map part = fields.map ofField := by
  induction fields generalizing used with
  | nil => rfl
  | cons f rest ih => rw [membersOf_cons, List.map_cons, List.map_cons, hpart, ih]

/-- What depends on the accessor names alone, and keeps them apart, keeps the
members apart. -/
theorem nodup_map_membersOf {style : Style} {used : List String} {fields : List InferredField}
    {part : Member → String} (ofBase : String → String)
    (hpart : ∀ f base, part (memberOfBase style f base) = ofBase base)
    (hinj : ∀ base base', Accessor base → Accessor base' → ofBase base = ofBase base' →
      base = base') : ((membersOf style used fields).1.map part).Nodup := by
  have hmap : (membersOf style used fields).1.map part =
      (accessorNames used fields).map ofBase := by
    induction fields generalizing used with
    | nil => rfl
    | cons f rest ih => rw [membersOf_cons, accessorNames, List.map_cons, List.map_cons, hpart, ih]
  rw [hmap]
  refine List.pairwise_map.mpr ((nodup_accessorNames used fields).imp_of_mem ?_)
  intro base base' hb hb' hne he
  exact hne (hinj base base' (accessor_of_mem_accessorNames hb)
    (accessor_of_mem_accessorNames hb') he)

/-- The names of a member are valid, and its setter assigns to its field: the
target is qualified unless the parameter has another name. -/
structure Member.Valid (m : Member) : Prop where
  field : ValidName m.field
  getter : ValidName m.getter
  setter : ValidName m.setter
  parameter : ValidName m.parameter
  target : m.target = "this." ++ m.field ∨ m.target = m.field ∧ m.field ≠ m.parameter

theorem memberOfBase_valid (style : Style) (f : InferredField) {base : String}
    (h : Accessor base) : (memberOfBase style f base).Valid := by
  have htarget (field parameter : String) : assignTarget field parameter = "this." ++ field ∨
      assignTarget field parameter = field ∧ field ≠ parameter := by
    by_cases he : field = parameter
    · exact Or.inl (if_pos he)
    · exact Or.inr ⟨if_neg he, he⟩
  exact {
    field := fieldOfBase_valid style.memberPrefix h
    getter := validName_append (by decide) (by decide +kernel) h.nameParts h.ne_empty
    setter := validName_append (by decide) (by decide +kernel) h.nameParts h.ne_empty
    parameter := parameterName_valid h
    target := htarget _ _ }

/-- Whatever the properties of some fields are and whatever accessor names are in
use, the fields get one member each, in their order. No two members share a field
name, a getter or a setter, and all their names are valid. In a class no getter
is `getClass`. -/
theorem members_unambiguous (style : Style) (used : List String) (fields : List InferredField) :
    (membersOf style used fields).1.map (·.property) = fields.map (·.name) ∧
    ((membersOf style used fields).1.map (·.field)).Nodup ∧
    ((membersOf style used fields).1.map (·.getter)).Nodup ∧
    ((membersOf style used fields).1.map (·.setter)).Nodup ∧
    (∀ m ∈ (membersOf style used fields).1, m.Valid) ∧
    ∀ c : InferredClass, ∀ m ∈ members style c, m.getter ≠ "getClass" := by
  refine ⟨map_membersOf (fun _ _ => rfl) used fields, ?_, ?_, ?_, ?_, ?_⟩
  · exact nodup_map_membersOf (fieldOfBase style.memberPrefix) (fun _ _ => rfl)
      fun _ _ hb hb' => fieldOfBase_injective style.memberPrefix hb hb'
  · exact nodup_map_membersOf ("get" ++ ·) (fun _ _ => rfl)
      fun _ _ _ _ => (String.append_right_inj "get").mp
  · exact nodup_map_membersOf ("set" ++ ·) (fun _ _ => rfl)
      fun _ _ _ _ => (String.append_right_inj "set").mp
  · intro m hm
    obtain ⟨f, _, base, hbase, rfl⟩ := exists_of_mem_membersOf hm
    exact memberOfBase_valid style f (accessor_of_mem_accessorNames hbase)
  · intro c m hm
    obtain ⟨f, _, base, hbase, rfl⟩ := exists_of_mem_membersOf hm
    intro he
    have hclass : base = "Class" := (String.append_right_inj "get").mp he
    exact not_mem_of_mem_accessorNames hbase (by simp [hclass, inheritedNames])

/-- Properties whose accessor names meet, one of them with a number already. -/
def meetingFields : List InferredField :=
  [⟨"A", .text⟩, ⟨"A2", .text⟩, ⟨"a", .integer⟩, ⟨"class", .text⟩, ⟨"", .anything⟩]

/-- The member of the property `a`, whose first two names are taken. -/
def thirdMember : Member where
  property := "a"
  field := "mA3"
  type := .simple "Long"
  annotations := [.serializedName "a"]
  getter := "getA3"
  setter := "setA3"
  parameter := "a3"
  target := "mA3"

theorem meeting_members_unambiguous :
    (membersOf {} inheritedNames meetingFields).1.map (·.getter) =
      ["getA", "getA2", "getA3", "getClass2", "getField"] ∧
    ((membersOf {} inheritedNames meetingFields).1.map (·.getter)).Nodup ∧
    thirdMember ∈ (membersOf {} inheritedNames meetingFields).1 ∧ thirdMember.Valid ∧
    thirdMember.getter ≠ "getClass" := by
  have hm : thirdMember ∈ (membersOf {} inheritedNames meetingFields).1 := by decide +kernel
  have h := members_unambiguous {} inheritedNames meetingFields
  exact ⟨by decide +kernel, h.2.2.1, hm, h.2.2.2.2.1 thirdMember hm,
    h.2.2.2.2.2 { name := "Root", fields := meetingFields } thirdMember hm⟩

end SampleSchema.Java
