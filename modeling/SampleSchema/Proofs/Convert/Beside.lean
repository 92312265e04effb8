import SampleSchema.Proofs.Convert.JavaFiles
import SampleSchema.Proofs.Convert.ModelFile
import SampleSchema.Proofs.Files.Directories
import SampleSchema.Proofs.Files.Writing
/-!
Conversions beside a file that they do not touch.

* `writeRegistry_erase`, `writeModel_erase`: what is written is the same with the file
  and without it;
* `writes_writeRegistry`, `writes_writeModel`: directories are made and texts are written, and
  nothing else is done;
* `Writable`: where a model can be written (`writeModel_of_writable`), such as over a file
  that has just been made (`writable_of_vacant`).
-/

namespace SampleSchema.Convert

open Files Infer Java Json Schema Text

variable {s s' : Store} {directory : Location} {file out : String} {style : Style}

/-! ## Java files -/

/-- The file is none of those that Java files are written to, and not on their way. -/
structure NotJava (style : Style) (out file : String) : Prop where
  directory : file ∉ Path.names (packageDirectory out style.package)
  ending : ¬ ".java".toList <:+ file.toList

theorem NotJava.not_mem (h : NotJava style out file) (name : Points) :
    file ∉ Path.names (javaPath out style.package (className name)) := by
  rw [names_javaPath, List.mem_append, List.mem_singleton, not_or]
  refine ⟨h.directory, ?_⟩
  rintro rfl
  exact h.ending ⟨_, (String.toList_append ..).symm⟩

private theorem writeJava_erase (h : NotJava style out file) (name text : Points) :
    writeJava style out (className name) text (s.erase (directory ++ [file])) =
      ((writeJava style out (className name) text s).1.erase (directory ++ [file]),
        (writeJava style out (className name) text s).2) := by
  unfold writeJava
  rw [Store.makeDirectories_erase h.directory]
  rcases s.makeDirectories (packageDirectory out style.package) true with ⟨made, _ | fault⟩
  · exact Store.writeText_erase (h.not_mem name) text
  · rfl

private theorem writeClasses_erase (h : NotJava style out file) (taken : List (String × Points))
    (classes : List InferredClass) (log : Array Event) :
    writeClasses style out taken classes (s.erase (directory ++ [file])) log =
      { writeClasses style out taken classes s log with
        store := (writeClasses style out taken classes s log).store.erase
          (directory ++ [file]) } := by
  induction classes generalizing taken s log with
  | nil => rfl
  | cons c rest ih =>
    simp only [writeClasses, writeJava_erase h]
    cases taken.lookup (className c.name) with
    | some first => exact ih taken _
    | none =>
      rcases writeJava style out (className c.name) (source style c) s with ⟨made, _ | fault⟩
      · simp only [ih]
      · rfl

/-- The Java files of a registry are the same with another file and without it. -/
theorem writeRegistry_erase (h : NotJava style out file) (r : Registry) :
    writeRegistry style out r (s.erase (directory ++ [file])) =
      { writeRegistry style out r s with
        store := (writeRegistry style out r s).store.erase (directory ++ [file]) } := by
  simp only [writeRegistry, writeClasses_erase h]
  generalize writeClasses style out [] r.classes s #[] = outcome
  rcases outcome with ⟨_ | _, _, _, _⟩ <;> rfl

theorem writes_writeJava (style : Style) (out name : String) (text : Points) (s : Store) :
    s.Writes (writeJava style out name text s).1 := by
  have hmade := (Store.Writes.refl s).makeDirectories (packageDirectory out style.package) true
  unfold writeJava
  split
  · rename_i made fault he
    rw [he] at hmade
    exact hmade
  · rename_i made he
    rw [he] at hmade
    exact hmade.writeText _ text

theorem writes_writeClasses (style : Style) (out : String) (taken : List (String × Points))
    (classes : List InferredClass) (s : Store) (log : Array Event) :
    s.Writes (writeClasses style out taken classes s log).store := by
  induction classes generalizing taken s log with
  | nil => exact Store.Writes.refl s
  | cons c rest ih =>
    have hwritten := writes_writeJava style out (className c.name) (source style c) s
    simp only [writeClasses]
    cases taken.lookup (className c.name) with
    | some first => exact ih taken s _
    | none =>
      revert hwritten
      rcases writeJava style out (className c.name) (source style c) s with ⟨made, _ | fault⟩
      · exact fun hwritten => hwritten.trans (ih _ made log)
      · exact id

theorem writes_writeRegistry (style : Style) (out : String) (r : Registry) (s : Store) :
    s.Writes (writeRegistry style out r s).store := by
  rw [(writeRegistry_eq style out r s).2]
  exact writes_writeClasses style out [] r.classes s #[]

/-! ## Models -/

theorem prepareDirectory_erase (h : file ∉ Path.names out) :
    prepareDirectory out (s.erase (directory ++ [file])) =
      ((prepareDirectory out s).1.erase (directory ++ [file]), (prepareDirectory out s).2) := by
  have hdirectory : file ∉ Path.names (Path.directory out) :=
    fun hmem => h (Path.mem_names_directory hmem)
  simp only [prepareDirectory, Store.pathExists_erase hdirectory,
    Store.makeDirectories_erase hdirectory]
  split <;> rfl

/-- The model of a registry is the same with another file and without it. -/
theorem writeModel_erase (h : file ∉ Path.names out) (r : Registry) :
    writeModel r out (s.erase (directory ++ [file])) =
      ((writeModel r out s).1.erase (directory ++ [file]), (writeModel r out s).2) := by
  simp only [writeModel, prepareDirectory_erase h]
  rcases prepareDirectory out s with ⟨made, _ | fault⟩
  · exact Store.writeText_erase h _
  · rfl

private theorem writes_prepareDirectory (out : String) (s : Store) :
    s.Writes (prepareDirectory out s).1 := by
  simp only [prepareDirectory]
  split
  · exact Store.Writes.refl s
  · exact (Store.Writes.refl s).makeDirectories _ false

theorem writes_writeModel (r : Registry) (out : String) (s : Store) :
    s.Writes (writeModel r out s).1 := by
  have hmade := writes_prepareDirectory out s
  unfold writeModel
  revert hmade
  rcases prepareDirectory out s with ⟨made, _ | fault⟩
  · exact fun hmade => hmade.writeText out _
  · exact id

/-- A file can be written at a path, once the directory is made that it needs. -/
def Writable (s : Store) (path : String) : Prop :=
  ∃ made parent name, prepareDirectory path s = (made, none) ∧
    made.locate path = .ok (.entry parent name false) ∧
    made.node? (parent ++ [name]) ≠ some .directory

theorem writeModel_of_writable {path : String} (h : Writable s path) (r : Registry) :
    ∃ written, writeModel r path s = (written, none) := by
  obtain ⟨made, parent, name, hmade, hlocated, hnode⟩ := h
  exact writeModel_of_accepts hmade ⟨_, ⟨parent, name, hlocated, rfl⟩, hnode⟩ r

/-- A path that can be written to without a file can be written to beside it. -/
theorem writable_of_erase {path : String} (h : file ∉ Path.names path)
    (hw : Writable (s.erase (directory ++ [file])) path) : Writable s path := by
  obtain ⟨made, parent, name, hmade, hlocated, hnode⟩ := hw
  rw [prepareDirectory_erase h] at hmade
  rcases hprepared : prepareDirectory path s with ⟨prepared, fault⟩
  rw [hprepared, Prod.mk.injEq] at hmade
  obtain ⟨hstore, hfault⟩ := hmade
  rw [← hstore, Store.locate_erase h] at hlocated
  rw [← hstore, Store.node?_erase_of_locate h hlocated] at hnode
  exact ⟨prepared, parent, name, hfault ▸ hprepared, hlocated, hnode⟩

/-- No directory is missing for a path that leads to an entry. -/
theorem prepareDirectory_of_locate {path name : String} {parent : Location}
    (h : s.locate path = .ok (.entry parent name false)) :
    prepareDirectory path s = (s, none) := by
  simp only [prepareDirectory]
  rw [if_pos]
  rw [Bool.or_eq_true]
  by_cases hne : Path.directory path = ""
  · exact Or.inl (String.isEmpty_iff.mpr hne)
  · exact Or.inr (Store.pathExists_directory h hne)

/-- A file can be written over one that has been made in a directory that is there. -/
theorem writable_of_vacant {path : String} (h : s.Vacant path directory file)
    (bytes : List UInt8) : Writable (s.set (directory ++ [file]) (.file bytes)) path := by
  have hlocated := (h.keeps (.file bytes)).directories.locate h.located
  refine ⟨_, directory, file, ?_, hlocated, ?_⟩
  · exact prepareDirectory_of_locate hlocated
  · rw [Store.node?_set s _ (Store.locate_entry h.located).2.1, if_pos rfl]
    nofun

end SampleSchema.Convert
