import SampleSchema.Proofs.Files.Beside
import SampleSchema.Proofs.Text.Utf8
/-!
What is left of a store by making directories and writing texts, in any order.

* `Writes`: one store comes from another by that alone;
* `Writes.keepsDirectories`, `Writes.holdsText`: directories stay, and files of text stay
  files of text;
* `Vacant.removeFile`, `Vacant.gone`: a file that was new can be removed, and then it is gone.
-/

namespace SampleSchema.Files.Store

open SampleSchema.Files.Path SampleSchema.Text

variable {s s' t : Store} {location directory : Location} {path file : String} {node : Node}

/-- Directories are made and texts are written, and nothing else is done. -/
inductive Writes : Store → Store → Prop
  | refl (s : Store) : Writes s s
  | makeDirectories {s s' : Store} (path : String) (mayExist : Bool) (h : Writes s s') :
      Writes s (s'.makeDirectories path mayExist).1
  | writeText {s s' : Store} (path : String) (text : Points) (h : Writes s s') :
      Writes s (s'.writeText path text).1

theorem Writes.trans (h : Writes s s') (h' : Writes s' t) : Writes s t := by
  induction h' with
  | refl => exact h
  | makeDirectories path mayExist _ ih => exact ih.makeDirectories path mayExist
  | writeText path text _ ih => exact ih.writeText path text

/-- Directories stay directories. -/
theorem Writes.keepsDirectories (h : Writes s s') : KeepsDirectories s s' := by
  induction h with
  | refl => exact KeepsDirectories.refl _
  | makeDirectories path mayExist _ ih =>
    exact ih.trans (makeDirectories_keeps _ path mayExist).directories
  | writeText path text _ ih => exact ih.trans (keepsDirectories_writeText _ path text)

/-- A file at this place holds text. -/
def HoldsText (s : Store) (location : Location) : Prop :=
  ∃ text : String, s.node? location = some (.file (Utf8.encode text.toList))

theorem HoldsText.not_directory (h : s.HoldsText location) :
    s.node? location ≠ some .directory := by
  obtain ⟨text, h⟩ := h
  rw [h]
  nofun

theorem Keeps.holdsText (h : Keeps s s') (ht : s.HoldsText location) : s'.HoldsText location := by
  obtain ⟨text, ht⟩ := ht
  exact ⟨text, h location _ ht⟩

private theorem holdsText_writeText (path : String) (text : Points) (ht : s.HoldsText location) :
    (s.writeText path text).1.HoldsText location := by
  rcases writeText_cases s path text with he | ⟨written, hwritten⟩
  · rwa [he]
  · obtain ⟨parent, name, hl, _, he⟩ := writeBytes_eq_ok_iff.mp hwritten
    rw [he, HoldsText, node?_set s _ (locate_entry hl).2.1]
    split
    · exact ⟨written, rfl⟩
    · exact ht

/-- Files of text stay files of text. -/
theorem Writes.holdsText (h : Writes s s') (ht : s.HoldsText location) :
    s'.HoldsText location := by
  induction h with
  | refl => exact ht
  | makeDirectories path mayExist _ ih =>
    exact (makeDirectories_keeps _ path mayExist).holdsText ih
  | writeText path text _ ih => exact holdsText_writeText path text ih

/-! ## New files -/

theorem node?_erase_self (s : Store) (h : location.isAnchor = false) :
    (s.erase location).node? location = none := by
  simp [node?, erase, h, List.find?_filter]

/-- Only nodes of a store are left when one is erased. -/
theorem keeps_of_erase : Keeps (s.erase location) s := by
  intro other node h
  by_cases he : other = location
  · subst he
    by_cases hanchor : other.isAnchor = true
    · simpa [node?, hanchor] using h
    · rw [node?_erase_self s (Bool.eq_false_iff.mpr hanchor)] at h
      cases h
  · rwa [node?_erase s he] at h

theorem keeps_of_removeFile : Keeps (s.removeFile path) s := by
  unfold removeFile
  split
  · exact keeps_of_erase
  · exact Keeps.refl s

theorem Keeps.none (h : Keeps s s') (hnone : s'.node? location = none) :
    s.node? location = none := by
  cases hnode : s.node? location with
  | none => rfl
  | some node =>
    rw [h location node hnode] at hnone
    cases hnone

/-- What is no directory can be erased without losing one. -/
theorem keepsDirectories_erase (h : s.node? location ≠ some .directory) :
    KeepsDirectories s (s.erase location) := by
  intro other hother
  rw [node?_erase]
  · exact hother
  · rintro rfl
    exact h hother

/-- Where a file was made that was new, it can be removed. -/
theorem Vacant.removeFile (h : s.Vacant path directory file) (hkeeps : KeepsDirectories s t) :
    t.removeFile path = t.erase (directory ++ [file]) :=
  removeFile_of_locate (hkeeps.locate h.located)

/-- No path leads to where there is nothing any more. -/
theorem Vacant.gone (h : s.Vacant path directory file) (hkeeps : KeepsDirectories s t)
    (hnone : t.node? (directory ++ [file]) = none) : t.pathExists path = false := by
  unfold pathExists lookup?
  rw [hkeeps.locate h.located]
  simp [hnone]

end SampleSchema.Files.Store
