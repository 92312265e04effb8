import SampleSchema.Proofs.Convert.ModelFile
import SampleSchema.Proofs.Convert.Stopping
import SampleSchema.Proofs.Infer.Visits
/-!
Conversions that fail before they write.

* `Rejects`: the reasons for which no classes are found for a file;
* `inferFile_error_iff`: an inference fails for one of them, and for no other reason;
* `jsonToJava_rejected`, `jsonToModel_rejected`: a conversion then fails for the same reason
  and leaves the store as it is;
* `jsonToJava_failed`, `jsonToModel_failed`: any other failure is a fault of the output.
-/

namespace SampleSchema.Convert

open Files Infer Json Schema Text

/-- Why no classes are found for the file at a path. -/
inductive Rejects (strict : Bool) (root path : String) (s : Store) : Failure → Prop
  /-- The file cannot be read. -/
  | unreadable {fault : Files.Fault} (h : s.readBytes path = .error fault) :
      Rejects strict root path s (.file fault)
  /-- The file is no text. -/
  | undecodable {bytes : List UInt8} {fault : Utf8.Fault} (h : s.readBytes path = .ok bytes)
      (hdecode : Utf8.decode bytes = .error fault) : Rejects strict root path s (.encoding fault)
  /-- The text is no JSON. -/
  | unparsed {text : String} {fault : Json.Fault} (h : s.readText path = .ok text)
      (hread : Json.read text = .error fault) :
      Rejects strict root path s (.ofJson (rootOr root path) text fault)
  /-- The document is no object, or it has a conflict. -/
  | unfit {text : String} {document : Document} {fault : Infer.Fault}
      (h : s.readText path = .ok text) (hread : Json.read text = .ok document)
      (hbuild : (buildSchema Naming.singular strict (rootOr root path) document).fault =
        some fault) :
      Rejects strict root path s (.schema fault)

/-- A conversion that fails for its document leaves the store as it was. Any other failure is
one of `Faulty`, a fault of the output for the classes that have been found. -/
structure FailsClean {Result : Type} (strict : Bool) (root path : String) (s : Store)
    (Faulty : Registry → Failure → Prop) (result : Except Failure Result) (after : Store) :
    Prop where
  rejected : ∀ failure, Rejects strict root path s failure → result = .error failure ∧ after = s
  failed : ∀ failure, result = .error failure → Rejects strict root path s failure ∨
    ∃ r, (inferFile strict root path s).result = .ok r ∧ Faulty r failure

/-- A model meets a fault of its file. -/
def ModelFault (_ : Registry) (failure : Failure) : Prop := ∃ fault, failure = .file fault

/-- Java files meet a fault of a file, or there is a class whose source cannot be encoded. -/
def JavaFault (style : Java.Style) (r : Registry) (failure : Failure) : Prop :=
  (∃ fault, failure = .file fault) ∨
    ∃ c ∈ r.classes, ∃ fault, Utf8.encodePoints (Java.source style c) = .error fault ∧
      failure = .unencodable fault

section

variable {strict : Bool} {root path out text : String} {style : Java.Style} {s : Store}
  {failure : Failure}

/-! ## Inferences -/

private theorem readText_of_undecodable {bytes : List UInt8} {fault : Utf8.Fault}
    (h : s.readBytes path = .ok bytes) (hdecode : Utf8.decode bytes = .error fault) :
    s.readText path = .error (.encoding fault) := by
  simp only [Store.readText, h, hdecode]

private theorem readText_error {fault : ReadFault} (h : s.readText path = .error fault) :
    Rejects strict root path s (.ofRead fault) := by
  unfold Store.readText at h
  split at h
  · rename_i found hbytes
    cases h
    exact .unreadable hbytes
  · rename_i bytes hbytes
    split at h
    · rename_i found hdecode
      cases h
      exact .undecodable hbytes hdecode
    · cases h

private theorem inferText_error_iff :
    (inferText strict root text).result = .error failure ↔
      (∃ fault, Json.read text = .error fault ∧ failure = .ofJson root text fault) ∨
      ∃ document fault, Json.read text = .ok document ∧
        (buildSchema Naming.singular strict root document).fault = some fault ∧
          failure = .schema fault := by
  unfold inferText
  cases Json.read text with
  | error fault => simp [eq_comm]
  | ok document =>
    dsimp only
    cases hb : (buildSchema Naming.singular strict root document).fault with
    | some fault => simp [hb, eq_comm]
    | none => simp [hb]

/-- An inference fails for one of these reasons, and for no other. -/
theorem inferFile_error_iff :
    (inferFile strict root path s).result = .error failure ↔
      Rejects strict root path s failure := by
  unfold inferFile
  constructor
  · intro h
    split at h
    · rename_i fault hread
      obtain rfl := Except.error.inj h
      exact readText_error hread
    · rename_i text hread
      rcases inferText_error_iff.mp h with ⟨fault, hparse, rfl⟩ | ⟨document, fault, hparse, hb, rfl⟩
      · exact .unparsed hread hparse
      · exact .unfit hread hparse hb
  · intro h
    cases h with
    | unreadable h => simp [Store.readText, h, Failure.ofRead]
    | undecodable h hdecode => simp [readText_of_undecodable h hdecode, Failure.ofRead]
    | unparsed h hread =>
      simp only [h]
      exact inferText_error_iff.mpr (Or.inl ⟨_, hread, rfl⟩)
    | unfit h hread hbuild =>
      simp only [h]
      exact inferText_error_iff.mpr (Or.inr ⟨_, _, hread, hbuild, rfl⟩)

/-! ## Messages -/

theorem jsonToJava_rejected (h : Rejects strict root path s failure) :
    (jsonToJava strict style root path out s).result = .error failure ∧
      (jsonToJava strict style root path out s).store = s := by
  simp only [jsonToJava, inferFile_error_iff.mpr h, and_self]

theorem jsonToModel_rejected (h : Rejects strict root path s failure) :
    (jsonToModel strict root path out s).result = .error failure ∧
      (jsonToModel strict root path out s).store = s := by
  simp only [jsonToModel, inferFile_error_iff.mpr h, and_self]

theorem writeRegistry_failed {r : Registry}
    (h : (writeRegistry style out r s).result = .error failure) : JavaFault style r failure := by
  rw [(writeRegistry_eq style out r s).1] at h
  obtain ⟨front, c, fault, hstops, rfl⟩ := exists_stopsAt h
  cases fault with
  | file fault => exact Or.inl ⟨fault, rfl⟩
  | encoding fault =>
    obtain ⟨back, hclasses⟩ := hstops.split
    have hmem : c ∈ r.classes := by simp [hclasses]
    exact Or.inr ⟨c, hmem, fault, (writeJava_encoding_iff.mp hstops.fails).2, rfl⟩

/-- A conversion to Java fails for the document or for a fault of the output. -/
theorem jsonToJava_failed (h : (jsonToJava strict style root path out s).result = .error failure) :
    Rejects strict root path s failure ∨
      ∃ r, (inferFile strict root path s).result = .ok r ∧ JavaFault style r failure := by
  simp only [jsonToJava] at h
  split at h
  · rename_i found hinfer
    cases h
    exact Or.inl (inferFile_error_iff.mp hinfer)
  · rename_i r hinfer
    exact Or.inr ⟨r, hinfer, writeRegistry_failed h⟩

/-- A model can always be encoded. -/
theorem writeModel_failed {r : Registry} {fault : WriteFault}
    (h : (writeModel r out s).2 = some fault) : ∃ refused, fault = .file refused := by
  unfold writeModel at h
  split at h
  · cases h
    exact ⟨_, rfl⟩
  · rename_i made _
    rw [Store.writeText_of_isString (Points.isString_ofString (modelText r))] at h
    split at h
    · cases h
      exact ⟨_, rfl⟩
    · cases h

/-- A conversion to a model fails for the document or for a fault of the output. -/
theorem jsonToModel_failed (h : (jsonToModel strict root path out s).result = .error failure) :
    Rejects strict root path s failure ∨
      ∃ r, (inferFile strict root path s).result = .ok r ∧ ModelFault r failure := by
  simp only [jsonToModel] at h
  split at h
  · rename_i found hinfer
    cases h
    exact Or.inl (inferFile_error_iff.mp hinfer)
  · rename_i r hinfer
    refine Or.inr ⟨r, hinfer, ?_⟩
    dsimp only at h
    split at h
    · rename_i fault hfault
      obtain ⟨refused, rfl⟩ := writeModel_failed hfault
      exact ⟨refused, (Except.error.inj h).symm⟩
    · cases h

end

end SampleSchema.Convert
