import SampleSchema.Proofs.Json.Strings
/-!
The texts of values that models consist of.

* `Tree.Plain`: values of strings, arrays and objects without repeated keys;
* `Tree.nesting`: how many arrays and objects a value has in one another;
* `value_array_cons`, `value_object_cons`: the parts of a text;
* `head_value`: what it starts with;
* `length_elements`, `length_members`: it is as long as its parts;
* `portable_value`: it is ASCII, without carriage returns.
-/

namespace SampleSchema.Json

open Text

namespace Tree

/-! ## Plain values -/

/-- Values of strings, arrays and objects without repeated keys. Strings and keys are
`spelled` in some way. -/
inductive Plain (spelled : Points → Prop) : Document → Prop
  | string {s : Points} : spelled s → Plain spelled (.string s)
  | array {items : List Document} : (∀ v ∈ items, Plain spelled v) →
      Plain spelled (.array items)
  | object {members : List (Points × Document)} : (members.map (·.1)).Nodup →
      (∀ m ∈ members, spelled m.1) → (∀ m ∈ members, Plain spelled m.2) →
      Plain spelled (.object members)

mutual

/-- How many arrays and objects a value has in one another. -/
def nesting : Document → Nat
  | .array items => nestingOfItems items + 1
  | .object members => nestingOfMembers members + 1
  | _ => 0

def nestingOfItems : List Document → Nat
  | [] => 0
  | v :: vs => max v.nesting (nestingOfItems vs)

def nestingOfMembers : List (Points × Document) → Nat
  | [] => 0
  | (_, v) :: ms => max v.nesting (nestingOfMembers ms)

end

end Tree

namespace Printer

/-! ## Values -/

theorem value_string (level : Nat) (s : Points) : value level (.string s) = string s := rfl

theorem value_array_nil (level : Nat) : value level (.array []) = ['[', ']'] := rfl

theorem value_array_cons (level : Nat) (v : Document) (vs : List Document) :
    value level (.array (v :: vs)) =
      '[' :: newLine (level + 1) ++ value (level + 1) v ++ elements (level + 1) vs
        ++ newLine level ++ [']'] :=
  rfl

theorem value_object_nil (level : Nat) : value level (.object []) = ['\x7b', '\x7d'] := rfl

theorem value_object_cons (level : Nat) (key : Points) (v : Document)
    (ms : List (Points × Document)) :
    value level (.object ((key, v) :: ms)) =
      '\x7b' :: newLine (level + 1) ++ string key ++ [':', ' '] ++ value (level + 1) v
        ++ members (level + 1) ms ++ newLine level ++ ['\x7d'] :=
  rfl

/-! ## Beginnings -/

theorem head_array (items : List Document) (level : Nat) :
    ∃ later, value level (.array items) = '[' :: later := by
  cases items with
  | nil => exact ⟨_, value_array_nil level⟩
  | cons v vs => exact ⟨_, value_array_cons level v vs⟩

theorem head_object (members : List (Points × Document)) (level : Nat) :
    ∃ later, value level (.object members) = '\x7b' :: later := by
  cases members with
  | nil => exact ⟨_, value_object_nil level⟩
  | cons m ms => exact ⟨_, value_object_cons level m.1 m.2 ms⟩

/-- A plain value starts with a quote or an opening bracket. -/
theorem head_value {spelled : Points → Prop} {v : Document} (h : v.Plain spelled) (level : Nat) :
    ∃ c ∈ ['"', '[', '\x7b'], ∃ later, value level v = c :: later := by
  cases h with
  | @string s _ => exact ⟨'"', by decide, _, value_string level s⟩
  | @array items _ => exact ⟨'[', by decide, head_array items level⟩
  | @object members _ _ _ => exact ⟨'\x7b', by decide, head_object members level⟩

/-! ## Lengths -/

theorem length_elements (level : Nat) (vs : List Document) :
    vs.length ≤ (elements level vs).length ∧
      ∀ w ∈ vs, (value level w).length ≤ (elements level vs).length := by
  induction vs with
  | nil => exact ⟨Nat.zero_le _, List.forall_mem_nil _⟩
  | cons v vs ih =>
    obtain ⟨hcount, hvalues⟩ := ih
    have hlength : (elements level (v :: vs)).length = 1 + (newLine level).length +
        (value level v).length + (elements level vs).length := by
      simp only [elements, List.length_append, List.length_cons]
      omega
    rw [hlength, List.length_cons, List.forall_mem_cons]
    refine ⟨by omega, by omega, fun w hw => ?_⟩
    have := hvalues w hw
    omega

theorem length_members (level : Nat) (ms : List (Points × Document)) :
    ms.length ≤ (members level ms).length ∧
      ∀ m ∈ ms, (string m.1).length ≤ (members level ms).length ∧
        (value level m.2).length ≤ (members level ms).length := by
  induction ms with
  | nil => exact ⟨Nat.zero_le _, List.forall_mem_nil _⟩
  | cons m ms ih =>
    obtain ⟨key, v⟩ := m
    obtain ⟨hcount, hvalues⟩ := ih
    have hlength : (members level ((key, v) :: ms)).length = 3 + (newLine level).length +
        (string key).length + (value level v).length + (members level ms).length := by
      simp only [members, List.length_append, List.length_cons, List.length_nil]
      omega
    rw [hlength, List.length_cons, List.forall_mem_cons]
    refine ⟨by omega, ⟨by dsimp only; omega, by dsimp only; omega⟩, fun m hm => ?_⟩
    have := hvalues m hm
    constructor <;> omega

/-! ## Characters -/

theorem portable_newLine (level : Nat) : Portable (newLine level) := by
  refine Portable.cons (by decide) fun c hc => ?_
  rw [List.eq_of_mem_replicate hc]
  decide

private theorem portable_elements {level : Nat} {vs : List Document}
    (h : ∀ v ∈ vs, Portable (value level v)) : Portable (elements level vs) := by
  induction vs with
  | nil =>
    rw [elements]
    exact List.forall_mem_nil _
  | cons v vs ih =>
    obtain ⟨hv, hvs⟩ := List.forall_mem_cons.mp h
    rw [elements]
    exact ((Portable.cons (by decide) (portable_newLine level)).append hv).append (ih hvs)

private theorem portable_members {level : Nat} {ms : List (Points × Document)}
    (h : ∀ m ∈ ms, Portable (value level m.2)) : Portable (members level ms) := by
  induction ms with
  | nil =>
    rw [members]
    exact List.forall_mem_nil _
  | cons m ms ih =>
    obtain ⟨hm, hms⟩ := List.forall_mem_cons.mp h
    have hcolon : Portable [':', ' '] := by decide
    rw [members]
    exact ((((Portable.cons (by decide) (portable_newLine level)).append
      (portable_string m.1)).append hcolon).append hm).append (ih hms)

theorem portable_value {spelled : Points → Prop} {v : Document} (h : v.Plain spelled)
    (level : Nat) : Portable (value level v) := by
  induction h generalizing level with
  | @string s _ =>
    rw [value_string]
    exact portable_string s
  | @array items hplain ih =>
    cases items with
    | nil =>
      rw [value_array_nil]
      decide
    | cons v vs =>
      have hlater := portable_elements fun w hw => ih w (List.mem_cons_of_mem _ hw) (level + 1)
      have hend : Portable [']'] := by decide
      rw [value_array_cons]
      exact ((((Portable.cons (by decide) (portable_newLine _)).append
        (ih v List.mem_cons_self _)).append hlater).append (portable_newLine _)).append hend
  | @object ms hkeys hspelled hplain ih =>
    cases ms with
    | nil =>
      rw [value_object_nil]
      decide
    | cons m ms =>
      have hlater := portable_members fun w hw => ih w (List.mem_cons_of_mem _ hw) (level + 1)
      have hcolon : Portable [':', ' '] := by decide
      have hend : Portable ['\x7d'] := by decide
      rw [value_object_cons]
      exact ((((((Portable.cons (by decide) (portable_newLine _)).append
        (portable_string m.1)).append hcolon).append (ih m List.mem_cons_self _)).append
          hlater).append
          (portable_newLine _)).append hend

end Printer
end SampleSchema.Json
