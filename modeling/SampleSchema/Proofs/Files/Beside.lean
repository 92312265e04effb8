import SampleSchema.Proofs.Files.Store
/-!
What happens beside a file does not depend on it.

* `locate_erase`: where the name of a file is not in a path, the path leads to the
  same place with the file and without it;
* `readText_erase`, `writeText_erase`, `makeDirectories_erase`: so reading, writing and
  making directories have the same outcome, but for the file;
* `Vacant.writeBytes`, `Vacant.erase_set`: a file at a vacant place can be made, and
  erased without a trace.
-/

namespace SampleSchema.Files.Store

open SampleSchema.Files.Path SampleSchema.Text

variable {s : Store} {directory : Location} {file path : String}

/-! ## Looking up -/

theorem concat_ne {here : Location} {name : String} (h : name ≠ file) :
    here ++ [name] ≠ directory ++ [file] := by
  intro he
  have hlast := congrArg List.getLast? he
  rw [List.getLast?_concat, List.getLast?_concat, Option.some_inj] at hlast
  exact h hlast

private theorem node?_erase_concat {here : Location} {name : String} (h : name ≠ file) :
    (s.erase (directory ++ [file])).node? (here ++ [name]) = s.node? (here ++ [name]) :=
  node?_erase s (concat_ne h)

private theorem enter_erase {here : Location} {name : String} (h : name ≠ file) :
    (s.erase (directory ++ [file])).enter here name = s.enter here name := by
  unfold enter
  rw [node?_erase_concat h]

private theorem follow_erase {slash : Bool} {here : Location} {names : List String}
    (h : file ∉ names) :
    (s.erase (directory ++ [file])).follow slash here names = s.follow slash here names := by
  induction names generalizing here with
  | nil => rfl
  | cons first rest ih =>
    rw [List.mem_cons, not_or] at h
    have hfirst : (s.erase (directory ++ [file])).enter here first = s.enter here first :=
      enter_erase (Ne.symm h.1)
    cases rest with
    | nil => rw [follow, follow, hfirst]
    | cons second rest =>
      rw [follow_cons, follow_cons, hfirst]
      cases s.enter here first with
      | error cause => rfl
      | ok next => exact ih h.2

theorem locate_erase (h : file ∉ names path) :
    (s.erase (directory ++ [file])).locate path = s.locate path := by
  by_cases hne : path = ""
  · subst hne
    rfl
  · rw [locate_eq hne, locate_eq hne, follow_erase h]

/-- The entry that a path leads to is not the file, either. -/
theorem ne_of_locate {parent : Location} {name : String} {slash : Bool}
    (h : file ∉ names path) (hl : s.locate path = .ok (.entry parent name slash)) :
    parent ++ [name] ≠ directory ++ [file] := by
  obtain ⟨⟨above, habove⟩, _, _⟩ := locate_entry hl
  refine concat_ne ?_
  rintro rfl
  exact h (habove ▸ by simp)

theorem node?_erase_of_locate {parent : Location} {name : String} {slash : Bool}
    (h : file ∉ names path) (hl : s.locate path = .ok (.entry parent name slash)) :
    (s.erase (directory ++ [file])).node? (parent ++ [name]) = s.node? (parent ++ [name]) :=
  node?_erase s (ne_of_locate h hl)

theorem lookup?_erase (h : file ∉ names path) :
    (s.erase (directory ++ [file])).lookup? path = s.lookup? path := by
  unfold lookup?
  rw [locate_erase h]
  cases hl : s.locate path with
  | error cause => rfl
  | ok target =>
    cases target with
    | directory here => rfl
    | entry parent name slash => simp only [node?_erase_of_locate h hl]

theorem pathExists_erase (h : file ∉ names path) :
    (s.erase (directory ++ [file])).pathExists path = s.pathExists path :=
  congrArg Option.isSome (lookup?_erase h)

private theorem isDirectory_erase (h : file ∉ names path) :
    (s.erase (directory ++ [file])).isDirectory path = s.isDirectory path :=
  congrArg (· == some Node.directory) (lookup?_erase h)

theorem readBytes_erase (h : file ∉ names path) :
    (s.erase (directory ++ [file])).readBytes path = s.readBytes path := by
  unfold readBytes
  rw [locate_erase h]
  cases hl : s.locate path with
  | error cause => rfl
  | ok target =>
    cases target with
    | directory here => rfl
    | entry parent name slash => simp only [node?_erase_of_locate h hl]

theorem readText_erase (h : file ∉ names path) :
    (s.erase (directory ++ [file])).readText path = s.readText path := by
  unfold readText
  rw [readBytes_erase h]

/-! ## Changing -/

private theorem writeBytes_erase (h : file ∉ names path) (bytes : List UInt8) :
    (s.erase (directory ++ [file])).writeBytes path bytes =
      (s.writeBytes path bytes).map (·.erase (directory ++ [file])) := by
  unfold writeBytes
  rw [locate_erase h]
  cases hl : s.locate path with
  | error cause => rfl
  | ok target =>
    cases target with
    | directory here => rfl
    | entry parent name slash =>
      simp only [node?_erase_of_locate h hl]
      split
      · rfl
      · split
        · rfl
        · exact congrArg Except.ok (set_erase s _ (ne_of_locate h hl))

theorem writeText_erase (h : file ∉ names path) (text : Points) :
    (s.erase (directory ++ [file])).writeText path text =
      ((s.writeText path text).1.erase (directory ++ [file]), (s.writeText path text).2) := by
  unfold writeText
  cases Utf8.encodePoints text with
  | ok bytes =>
    simp only [writeBytes_erase h]
    cases s.writeBytes path bytes <;> rfl
  | error fault =>
    simp only [writeBytes_erase h]
    cases s.writeBytes path [] <;> rfl

private theorem makeDirectory_erase (h : file ∉ names path) :
    (s.erase (directory ++ [file])).makeDirectory path =
      (s.makeDirectory path).map (·.erase (directory ++ [file])) := by
  unfold makeDirectory
  rw [locate_erase h]
  cases hl : s.locate path with
  | error cause => rfl
  | ok target =>
    cases target with
    | directory here => rfl
    | entry parent name slash =>
      simp only [node?_erase_of_locate h hl]
      split
      · rfl
      · exact congrArg Except.ok (set_erase s _ (ne_of_locate h hl))

private theorem makeLast_erase (h : file ∉ names path) (mayExist : Bool) :
    (s.erase (directory ++ [file])).makeLast mayExist path =
      ((s.makeLast mayExist path).1.erase (directory ++ [file]), (s.makeLast mayExist path).2) := by
  unfold makeLast
  rw [makeDirectory_erase h]
  cases s.makeDirectory path with
  | ok made => rfl
  | error f =>
    simp only [Except.map, isDirectory_erase h]

private theorem mem_names_above {name : String} (h : name ∈ names (parentAndLast path).1) :
    name ∈ names path := by
  unfold parentAndLast at h
  simp only at h
  split at h
  · exact mem_names_directory (mem_names_directory h)
  · exact mem_names_directory h

private theorem makeAll_erase (mayExist : Bool) (fuel : Nat) (h : file ∉ names path) :
    makeAll mayExist fuel (s.erase (directory ++ [file])) path =
      ((makeAll mayExist fuel s path).1.erase (directory ++ [file]),
        (makeAll mayExist fuel s path).2) := by
  induction fuel generalizing path with
  | zero => exact makeLast_erase h mayExist
  | succ fuel ih =>
    have habove : file ∉ names (parentAndLast path).1 := fun hmem => h (mem_names_above hmem)
    simp only [makeAll, pathExists_erase habove, ih habove]
    by_cases hstop : ((parentAndLast path).1.isEmpty || (parentAndLast path).2.isEmpty ||
        s.pathExists (parentAndLast path).1) = true
    · simp only [if_pos hstop]
      exact makeLast_erase h mayExist
    · simp only [if_neg hstop]
      rcases makeAll mayExist fuel s (parentAndLast path).1 with ⟨made, _ | f⟩
      · by_cases hlast : (parentAndLast path).2 = "."
        · simp only [if_pos hlast]
        · simp only [if_neg hlast]
          exact makeLast_erase h mayExist
      · by_cases hcause : f.cause ≠ .fileExists
        · simp only [if_pos hcause]
        · simp only [if_neg hcause]
          by_cases hlast : (parentAndLast path).2 = "."
          · simp only [if_pos hlast]
          · simp only [if_neg hlast]
            exact makeLast_erase h mayExist

theorem makeDirectories_erase (h : file ∉ names path) (mayExist : Bool) :
    (s.erase (directory ++ [file])).makeDirectories path mayExist =
      ((s.makeDirectories path mayExist).1.erase (directory ++ [file]),
        (s.makeDirectories path mayExist).2) :=
  makeAll_erase mayExist path.length h

theorem removeFile_of_locate {slash : Bool}
    (h : s.locate path = .ok (.entry directory file slash)) :
    s.removeFile path = s.erase (directory ++ [file]) := by
  rw [removeFile, h]

/-- Removing a file leaves those that do not have its name in their paths. -/
theorem readBytes_removeFile {other : String}
    (h : ∀ name, (names path).getLast? = some name → name ∉ names other) :
    (s.removeFile path).readBytes other = s.readBytes other := by
  cases hl : s.locate path with
  | error cause => rw [removeFile, hl]
  | ok target =>
    cases target with
    | directory here => rw [removeFile, hl]
    | entry parent name slash =>
      obtain ⟨⟨above, habove⟩, _, _⟩ := locate_entry hl
      rw [removeFile_of_locate hl, readBytes_erase (h name (habove ▸ List.getLast?_concat))]

/-! ## Vacant places -/

/-- The path leads to a name in a directory that is there, and nothing has that name. -/
structure Vacant (s : Store) (path : String) (directory : Location) (file : String) : Prop where
  located : s.locate path = .ok (.entry directory file false)
  vacant : s.node? (directory ++ [file]) = none

theorem Vacant.last_name (h : s.Vacant path directory file) :
    (names path).getLast? = some file := by
  obtain ⟨⟨above, habove⟩, _, _⟩ := locate_entry h.located
  rw [habove, List.getLast?_concat]

theorem Vacant.ne_of_not_mem (h : s.Vacant path directory file) {other : String}
    (hother : other ∉ names path) : file ≠ other := by
  rintro rfl
  exact hother (List.mem_of_getLast? h.last_name)

theorem Vacant.writeBytes (h : s.Vacant path directory file) (bytes : List UInt8) :
    s.writeBytes path bytes = .ok (s.set (directory ++ [file]) (.file bytes)) :=
  writeBytes_eq_ok_iff.mpr ⟨directory, file, h.located, by rw [h.vacant]; nofun, rfl⟩

theorem Vacant.keeps (h : s.Vacant path directory file) (node : Node) :
    Keeps s (s.set (directory ++ [file]) node) := by
  intro other found hfound
  rw [node?_set s _ (locate_entry h.located).2.1, if_neg]
  · exact hfound
  · rintro rfl
    rw [h.vacant] at hfound
    cases hfound

/-- A file at a vacant place leaves no trace once it is erased. -/
theorem Vacant.erase_set (h : s.Vacant path directory file) (node : Node) :
    (s.set (directory ++ [file]) node).erase (directory ++ [file]) = s :=
  erase_set_of_vacant h.vacant

/-- A place stays vacant when a file is made elsewhere. -/
theorem Vacant.set (h : s.Vacant path directory file) {other : String} {above : Location}
    {name : String} (hother : s.Vacant other above name)
    (hne : directory ++ [file] ≠ above ++ [name]) (node : Node) :
    (s.set (above ++ [name]) node).Vacant path directory file where
  located := (hother.keeps node).directories.locate h.located
  vacant := by
    rw [node?_set s _ (locate_entry hother.located).2.1, if_neg hne]
    exact h.vacant

end SampleSchema.Files.Store
