import SampleSchema.Convert.Inference
import SampleSchema.Proofs.Infer.Conflict
import SampleSchema.Proofs.Json.LongIntegers
/-!
The errors of an inference.

* `LibraryError`: the errors that an inference is meant to have, each with what is wrong
  when it is given (`LibraryError.Cause`);
* `fault_cause`: a document without classes has one of them;
* `inferText_errors`: so does a text, unless it has an integer that is too long
  (`long_integer_escapes`).
-/

namespace SampleSchema.Convert

open Infer Json Schema
open Text (Points)

/-- The errors that an inference is meant to have. -/
inductive LibraryError where
  /-- The root name is empty, or the document is no object. -/
  | invalidInput
  /-- The text is no JSON. -/
  | malformedDocument
  /-- A property has two types, in strict mode. -/
  | typeConflict
  deriving DecidableEq, Repr

/-- The error of the library that a failure is, if it is one. -/
def Failure.libraryError? : Failure → Option LibraryError
  | .schema (.conflict _) => some .typeConflict
  | .schema _ => some .invalidInput
  | .malformed .. => some .malformedDocument
  | .tooDeep _ => some .malformedDocument
  | .longInteger _ => none
  | .file _ => none
  | .encoding _ => none
  | .unencodable _ => none
  | .missingArgument .. => none
  | .noText _ => none

/-- What is wrong when an inference fails with an error of the library. -/
def LibraryError.Cause (strict : Bool) (root text : String) : LibraryError → Prop
  | invalidInput => ∃ document, read text = .ok document ∧ ¬ Walkable root document
  | malformedDocument =>
      read text = .error .tooDeep ∨ ∃ cause rest, read text = .error (.malformed cause rest)
  | typeConflict => strict = true ∧ ∃ document, read text = .ok document ∧
      Clashing (buildVisits Naming.singular false root document)

/-! ## Documents -/

/-- A build outside strict mode goes through for every document that is walked. -/
theorem lenient_accepted {root : Points} {document : Document} (h : Walkable root document) :
    (buildSchema Naming.singular false root document).fault = none := by
  obtain ⟨hroot, members, rfl⟩ := h
  obtain ⟨d, hd⟩ := follow_lenient Naming.singular (documentTour Naming.singular root members) {}
  rw [buildSchema, build_object _ hroot, buildObject_eq, hd]

/-- A document whose classes are found is an object without conflicts in strict mode. -/
theorem accepted_of_build {strict : Bool} {root : Points} {document : Document}
    (h : (buildSchema Naming.singular strict root document).fault = none) :
    Walkable root document ∧
      ¬ (strict = true ∧ Clashing (buildVisits Naming.singular false root document)) := by
  refine ⟨walkable_of_build h, ?_⟩
  rintro ⟨rfl, hclash⟩
  exact ((accepted_iff {} root document).mp h).2 hclash

/-- A document without classes is at fault in one of two ways. -/
theorem fault_cause {strict : Bool} {root text : String} {document : Document} {fault : Infer.Fault}
    (hread : read text = .ok document)
    (h : (buildSchema Naming.singular strict root document).fault = some fault) :
    ∃ e, (Failure.schema fault).libraryError? = some e ∧ e.Cause strict root text := by
  by_cases hw : Walkable root document
  · cases strict with
    | false =>
      rw [lenient_accepted hw] at h
      cases h
    | true =>
      have hclash : Clashing (buildVisits Naming.singular false root document) := by
        refine Classical.byContradiction fun hclear => ?_
        have haccepted := (accepted_iff {} root document).mpr ⟨hw, hclear⟩
        rw [buildSchema] at h
        rw [h] at haccepted
        cases haccepted
      obtain ⟨c, hc⟩ := (exists_conflict_iff {} root document).mpr hclash
      obtain rfl : Infer.Fault.conflict c = fault := Option.some.inj (hc.symm.trans h)
      exact ⟨.typeConflict, rfl, rfl, document, hread, hclash⟩
  · obtain ⟨_, found, hfound, hne⟩ := build_refused { strict } hw
    obtain rfl : found = fault := Option.some.inj (hfound.symm.trans h)
    refine ⟨.invalidInput, ?_, document, hread, hw⟩
    cases found with
    | conflict c => exact absurd rfl (hne c)
    | emptyRootName => rfl
    | notAnObject root kind => rfl

/-! ## Texts -/

/-- An inference finds the classes of a document, or it fails with an error of the library
for the reason that belongs to that error. Nothing else is the case unless the text has an
integer with more digits than can be converted. -/
theorem inferText_errors (strict : Bool) (root text : String) :
    match (inferText strict root text).result with
    | .ok _ => ∃ document, read text = .ok document ∧ Walkable root document ∧
        ¬ (strict = true ∧ Clashing (buildVisits Naming.singular false root document))
    | .error failure =>
        (∃ e, failure.libraryError? = some e ∧ e.Cause strict root text) ∨
          ∃ n, failure = .longInteger n ∧ read text = .error (.longInteger n) ∧
            LongRun n text.toList := by
  unfold inferText
  cases hread : read text with
  | error fault =>
    cases fault with
    | malformed cause rest =>
      exact Or.inl ⟨.malformedDocument, rfl, Or.inr ⟨cause, rest, hread⟩⟩
    | tooDeep => exact Or.inl ⟨.malformedDocument, rfl, Or.inl hread⟩
    | longInteger n => exact Or.inr ⟨n, rfl, rfl, read_longInteger hread⟩
  | ok document =>
    dsimp only
    cases hfault : (buildSchema Naming.singular strict root document).fault with
    | some fault => exact Or.inl (fault_cause hread hfault)
    | none =>
      obtain ⟨hw, hclear⟩ := accepted_of_build hfault
      exact ⟨document, rfl, hw, hclear⟩

/-- Text with an integer of one digit more than can be converted. -/
def longIntegerText : String := String.ofList (Reader.longMember "n" (List.replicate 4301 '1'))

/-- The text is an object with one member. It is refused, and not by an error of the
library. -/
theorem long_integer_escapes :
    (inferText false "Root" longIntegerText).result = .error (.longInteger 4301) ∧
      (Failure.longInteger 4301).libraryError? = none := by
  have hdigits : ∀ c ∈ List.replicate 4301 '1', c.isDigit := by
    intro c hc
    rw [List.eq_of_mem_replicate hc]
    decide
  have hzero : (List.replicate 4301 '1').head? ≠ some '0' := by
    rw [List.head?_replicate]
    decide
  have hlong : Reader.digitLimit < (List.replicate 4301 '1').length := by
    rw [List.length_replicate]
    decide
  have hread : read longIntegerText = .error (.longInteger 4301) := by
    rw [Json.read, longIntegerText, String.toList_ofList,
      Reader.document_longMember "n" hdigits hzero hlong, List.length_replicate]
  refine ⟨?_, rfl⟩
  rw [inferText, hread]
  rfl

end SampleSchema.Convert
