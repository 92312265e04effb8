import Mathlib.Data.Finset.Card
import Mathlib.Data.List.Perm.Subperm
import Mathlib.Order.Bounds.Basic
import SampleSchema.Java.Member
/-!
Accessor names that are numbered when they are in use.

* `nodup_numbered`: the numbered forms of a name are distinct;
* `exists_free`: one more of them than there are names in use is not in use;
* `freeName_mem_numbered`, `freeName_not_mem`: the name that is chosen is one of
  them and is free;
* `Search`: candidates are tried one after another, without a bound on their number;
* `membersOf_search`: such a search ends after as many failures as there are names in
  use, at most, and gives the name that is chosen, which has the least number of all
  that are free.
-/

namespace SampleSchema.Java

open Schema

private theorem toString_injective {m n : Nat} (h : toString m = toString n) : m = n := by
  have hd := congrArg (fun s => Nat.ofDigitChars 10 s.toList 0) h
  simpa [Nat.toString_eq_ofList_toDigits] using hd

/-- Numbers behind a name keep its forms apart. -/
theorem nodup_numbered (base : String) (n : Nat) : (numbered base n).Nodup := by
  rw [numbered, List.nodup_cons]
  constructor
  · rw [List.mem_map]
    rintro ⟨i, _, hi⟩
    simp at hi
  · refine List.pairwise_map.mpr (List.nodup_range.imp ?_)
    intro i j hij h
    exact hij (Nat.add_right_cancel (toString_injective ((String.append_right_inj base).mp h)))

private theorem length_numbered (base : String) (n : Nat) : (numbered base n).length = n + 1 := by
  simp [numbered]

/-- As many names as are in use, and one more, cannot all be in use. -/
theorem exists_free (base : String) (used : List String) :
    ∃ name, ((numbered base used.length).find? fun name => !used.contains name) = some name := by
  rw [← Option.isSome_iff_exists, ← Option.ne_none_iff_isSome]
  intro h
  have hsub : numbered base used.length ⊆ used := by
    intro name hname
    simpa using List.find?_eq_none.mp h name hname
  have hlen := (List.subperm_of_subset (nodup_numbered base used.length) hsub).length_le
  rw [length_numbered] at hlen
  omega

theorem freeName_mem_numbered (base : String) (used : List String) :
    freeName base used ∈ numbered base used.length := by
  obtain ⟨name, h⟩ := exists_free base used
  rw [freeName, h]
  exact List.mem_of_find?_eq_some h

theorem freeName_not_mem (base : String) (used : List String) : freeName base used ∉ used := by
  obtain ⟨name, h⟩ := exists_free base used
  rw [freeName, h]
  simpa using List.find?_some h

/-! ## Searching -/

/-- A search from a candidate on, with the number to try next: a free candidate ends
it, and after one in use the numbered form is tried. It ends with a name after some
failures. -/
inductive Search (base : String) (used : List String) : String → Nat → Nat → String → Prop
  | found {candidate : String} {next : Nat} (h : candidate ∉ used) :
      Search base used candidate next 0 candidate
  | failed {candidate name : String} {next failures : Nat} (h : candidate ∈ used)
      (later : Search base used (base ++ toString next) (next + 1) failures name) :
      Search base used candidate next (failures + 1) name

namespace Search

variable {base candidate name name' : String} {used : List String} {next failures failures' : Nat}

/-- A search ends in one way only. -/
theorem unique (h : Search base used candidate next failures name)
    (h' : Search base used candidate next failures' name') :
    failures = failures' ∧ name = name' := by
  induction h generalizing failures' with
  | found hfree =>
    cases h' with
    | found => exact ⟨rfl, rfl⟩
    | failed hused => exact absurd hused hfree
  | failed hused _ ih =>
    cases h' with
    | found hfree => exact absurd hused hfree
    | failed _ later =>
      obtain ⟨rfl, rfl⟩ := ih later
      exact ⟨rfl, rfl⟩

/-- Of candidates in a row the first that is free ends the search. -/
theorem of_split {count : Nat} {front back : List String}
    (hsplit : candidate :: (List.range count).map (fun i => base ++ toString (next + i)) =
      front ++ name :: back)
    (hfront : ∀ tried ∈ front, tried ∈ used) (hname : name ∉ used) :
    Search base used candidate next front.length name := by
  induction front generalizing candidate next count with
  | nil =>
    obtain ⟨rfl, _⟩ := List.cons.inj hsplit
    exact found hname
  | cons tried front ih =>
    obtain ⟨htried, hlater⟩ := List.forall_mem_cons.mp hfront
    obtain ⟨rfl, hrest⟩ := List.cons.inj hsplit
    refine failed htried ?_
    cases count with
    | zero => simp at hrest
    | succ count =>
      have hrow : (base ++ toString next) ::
          (List.range count).map (fun i => base ++ toString (next + 1 + i)) =
            front ++ name :: back := by
        rw [← List.append_eq, ← hrest, List.range_succ_eq_map, List.map_cons, List.map_map,
          Nat.add_zero]
        refine congrArg _ (List.map_congr_left fun i _ => ?_)
        rw [Function.comp_apply, Nat.succ_eq_add_one, Nat.add_right_comm, Nat.add_assoc]
      exact ih hrow hlater

/-- What a search has tried before it ends: the candidate, and then the numbers from
the next one on. -/
theorem outcome (h : Search base used candidate next failures name) :
    name ∉ used ∧
      (candidate ∉ used ∧ name = candidate ∨
        candidate ∈ used ∧ ∃ k, next ≤ k ∧ name = base ++ toString k ∧
          ∀ j, next ≤ j → j < k → base ++ toString j ∈ used) := by
  induction h with
  | found hfree => exact ⟨hfree, Or.inl ⟨hfree, rfl⟩⟩
  | @failed _ name next _ hused _ ih =>
    obtain ⟨hname, hends⟩ := ih
    refine ⟨hname, Or.inr ⟨hused, ?_⟩⟩
    rcases hends with ⟨_, rfl⟩ | ⟨hnext, k, hk, rfl, hbelow⟩
    · exact ⟨next, Nat.le_refl next, rfl, fun j hj hlt => absurd hj (Nat.not_le.mpr hlt)⟩
    · refine ⟨k, by omega, rfl, fun j hj hlt => ?_⟩
      rcases Nat.eq_or_lt_of_le hj with rfl | hj
      · exact hnext
      · exact hbelow j hj hlt

end Search

/-- The search from a name on comes to the name that is chosen, and each failure is
at another name in use. -/
theorem search_freeName (base : String) (used : List String) :
    ∃ failures ≤ used.toFinset.card, Search base used base 2 failures (freeName base used) := by
  obtain ⟨name, hfind⟩ := exists_free base used
  have hchosen : freeName base used = name := by rw [freeName, hfind, Option.getD_some]
  obtain ⟨hfree, front, back, hsplit, hfront⟩ := List.find?_eq_some_iff_append.mp hfind
  have hused : ∀ tried ∈ front, tried ∈ used := fun tried ht => by simpa using hfront tried ht
  refine ⟨front.length, ?_, ?_⟩
  · have hnodup : front.Nodup :=
      (hsplit ▸ nodup_numbered base used.length).sublist (List.sublist_append_left ..)
    rw [← List.toFinset_card_of_nodup hnodup]
    refine Finset.card_le_card fun tried ht => ?_
    exact List.mem_toFinset.mpr (hused tried (List.mem_toFinset.mp ht))
  · rw [hchosen]
    have hrow : base :: (List.range used.length).map (fun i => base ++ toString (2 + i)) =
        front ++ name :: back := by
      simpa [numbered, Nat.add_comm] using hsplit
    exact Search.of_split hrow hused (by simpa using hfree)

/-- The name of a property comes out of a search that ends after no more failures than
there are names in use. It is the name itself if that is free, and otherwise has the
least number from two on that makes it free. It was not in use, and afterwards it is, as
the only new name. -/
theorem membersOf_search (style : Style) (f : InferredField) (used : List String) :
    let base := baseName f.name
    let name := freeName base used
    (∃ most ≤ used.toFinset.card, ∀ failures found,
      Search base used base 2 failures found ↔ failures = most ∧ found = name) ∧
    (base ∉ used → name = base) ∧
    (base ∈ used → ∃ k, IsLeast {k | 2 ≤ k ∧ base ++ toString k ∉ used} k ∧
      name = base ++ toString k) ∧
    name ∉ used ∧
    (membersOf style used [f]).1 = [memberOfBase style f name] ∧
    (membersOf style used [f]).2.toFinset = insert name used.toFinset := by
  intro base name
  obtain ⟨most, hmost, hsearch⟩ := search_freeName base used
  obtain ⟨hfree, hends⟩ := hsearch.outcome
  refine ⟨⟨most, hmost, fun failures found => ⟨fun h => h.unique hsearch, ?_⟩⟩, fun hbase => ?_,
    fun hbase => ?_, hfree, rfl, ?_⟩
  · rintro ⟨rfl, rfl⟩
    exact hsearch
  · rcases hends with ⟨_, hname⟩ | ⟨hused, _⟩
    · exact hname
    · exact absurd hused hbase
  · rcases hends with ⟨hnot, _⟩ | ⟨_, k, hk, hname, hbelow⟩
    · exact absurd hbase hnot
    · refine ⟨k, ⟨⟨hk, hname ▸ hfree⟩, fun j hj => ?_⟩, hname⟩
      by_contra hlt
      exact hj.2 (hbelow j hj.1 (Nat.lt_of_not_le hlt))
  · have hgrown : (membersOf style used [f]).2 = used ++ [name] := rfl
    rw [hgrown, List.toFinset_append, List.toFinset_cons, List.toFinset_nil,
      Finset.union_comm]
    rfl

end SampleSchema.Java
