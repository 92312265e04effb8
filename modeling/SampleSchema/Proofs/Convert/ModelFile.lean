import SampleSchema.Convert.ModelFile
import SampleSchema.Proofs.Files.Store
import SampleSchema.Proofs.Schema.Export
/-!
The model file of a registry.

* `readText_of_readBytes`: the text of a file that holds a text is the same, with its line
  ends turned into line feeds;
* `writeModel_succeeds`: a model file that is written holds the model, and its text is
  not changed by that (`readText_modelText`);
* `modelText_decodes`: the model is ASCII text, from which the names and the fields
  of the classes are read back.
-/

namespace SampleSchema.Convert

open Files Infer Json Schema Text

/-! ## Files -/

theorem readText_of_readBytes {store : Store} {path : String} {text : String}
    (h : store.readBytes path = .ok (Utf8.encode text.toList)) :
    store.readText path = .ok (String.ofList (lineFeedsOnly text.toList)) := by
  rw [Store.readText, h]
  simp only [Utf8.decode_encode]

/-- Models can be encoded, so that one is written where any file could be. -/
theorem writeModel_of_accepts {path : String} {store made : Store}
    (hmade : prepareDirectory path store = (made, none)) (h : made.Accepts path)
    (registry : Registry) : ∃ written, writeModel registry path store = (written, none) := by
  obtain ⟨written, hwritten⟩ :=
    (@Store.accepts_iff made path (Utf8.encode (modelText registry).toList)).mp h
  refine ⟨written, ?_⟩
  rw [writeModel, hmade]
  exact Store.writeText_eq_none_iff.mpr ⟨_, Utf8.encodePoints_ofString _, hwritten⟩

/-- A model file that is written holds the model. -/
theorem writeModel_succeeds {registry : Registry} {path : String} {store store' : Store}
    (h : writeModel registry path store = (store', none)) :
    store'.readBytes path = .ok (Utf8.encode (modelText registry).toList) := by
  unfold writeModel at h
  split at h
  · cases h
  · obtain ⟨bytes, hencoded, hwritten⟩ := Store.writeText_eq_none_iff.mp h
    rw [Utf8.encodePoints_ofString] at hencoded
    cases hencoded
    exact Store.readBytes_writeBytes_self hwritten

/-! ## Models -/

theorem portable_modelText (registry : Registry) :
    Printer.Portable (modelText registry).toList := by
  have hnames : registry.Spelled fun _ => True :=
    fun c _ => ⟨trivial, fun f _ => ⟨trivial, f.type.spelled_true⟩⟩
  rw [modelText, print, String.toList_ofList]
  exact Printer.portable_value (Registry.plain_toJson (fun _ => trivial) hnames) 0

/-- Its text is not changed by the reading of line ends. -/
theorem readText_modelText {registry : Registry} {path : String} {store : Store}
    (h : store.readBytes path = .ok (Utf8.encode (modelText registry).toList)) :
    store.readText path = .ok (modelText registry) := by
  have hreturn : '\r' ∉ (modelText registry).toList :=
    fun hc => (portable_modelText registry _ hc).2 rfl
  rw [readText_of_readBytes h, lineFeedsOnly_eq_self hreturn, String.ofList_toList]

/-- What a model tells, read from its text with arrays and objects at most `depth` deep
in one another. -/
def decodeWithin (depth : Nat) (text : String) : Option (List (Points × List InferredField)) :=
  match readWithin depth text with
  | .ok document => Registry.ofJson? document
  | .error _ => none

theorem readWithin_modelText {r : Registry} (h : r.Spelled (·.isString)) (depth : Nat) :
    readWithin depth (modelText r) =
      if r.toJson.nesting ≤ depth then .ok r.toJson else .error .tooDeep :=
  readWithin_print (Registry.plain_toJson Points.isString_ofString h) depth

theorem decodeWithin_modelText {r : Registry} (h : r.Spelled (·.isString)) {depth : Nat}
    (hdepth : r.toJson.nesting ≤ depth) :
    decodeWithin depth (modelText r) = some r.outline := by
  rw [decodeWithin, readWithin_modelText h, if_pos hdepth]
  exact r.ofJson?_toJson

/-- Models tell apart what they are of: read deep enough, both texts tell it. -/
theorem outline_eq_of_modelText_eq {r r' : Registry} (h : r.Spelled (·.isString))
    (h' : r'.Spelled (·.isString)) (he : modelText r = modelText r') :
    r.outline = r'.outline := by
  have hr := decodeWithin_modelText h (Nat.le_max_left r.toJson.nesting r'.toJson.nesting)
  have hr' := decodeWithin_modelText h' (Nat.le_max_right r.toJson.nesting r'.toJson.nesting)
  rw [he, hr'] at hr
  exact (Option.some.inj hr).symm

/-- What is nested no deeper than the reader allows is read. -/
theorem read_modelText {r : Registry} (hnames : r.Spelled (·.isString))
    (h : ∀ c ∈ r.classes, ∀ f ∈ c.fields, f.type.nesting + 5 ≤ Reader.depthLimit) :
    read (modelText r) = .ok r.toJson := by
  have hnesting : r.toJson.nesting ≤ Reader.depthLimit :=
    Registry.nesting_toJson_le (n := Reader.depthLimit - 5)
      fun c hc f hf => Nat.le_sub_of_add_le (h c hc f hf)
  rw [read_eq_readWithin, readWithin_modelText hnames, if_pos hnesting]

/-- The types of a document are not nested as deep as that. -/
theorem read_modelText_build {strict : Bool} {root : Points} {document : Document}
    (h : (buildSchema Naming.singular strict root document).fault = none)
    (hnames : (buildSchema Naming.singular strict root document).registry.Spelled (·.isString)) :
    read (modelText (buildSchema Naming.singular strict root document).registry) =
      .ok (buildSchema Naming.singular strict root document).registry.toJson := by
  have hwell := wellFormed_of_build h
  refine read_modelText hnames fun c hc f hf => ?_
  have hshown := (hwell.showable c hc f (List.mem_append_right _ hf)).nesting_le
  exact Nat.le_trans (Nat.add_le_add_right hshown 5) (by decide)

/-- The model of a registry is ASCII text, and its file holds the same text. If no name has
a lone half, a reader that allows for its nesting reads the classes, their fields and the
types as they are, and one that does not fails for that reason alone. Another such registry
has another text. -/
theorem modelText_decodes (r : Registry) :
    (∀ c ∈ (modelText r).toList, c.toNat < 128) ∧
    (∀ path store store', writeModel r path store = (store', none) →
      store'.readText path = .ok (modelText r)) ∧
    (∀ t t' : FieldType, t.toJson = t'.toJson → t = t') ∧
    (r.Spelled (·.isString) →
      (∀ depth, readWithin depth (modelText r) =
        if r.toJson.nesting ≤ depth then .ok r.toJson else .error .tooDeep) ∧
      (∀ depth, r.toJson.nesting ≤ depth → decodeWithin depth (modelText r) = some r.outline) ∧
      ((∀ c ∈ r.classes, ∀ f ∈ c.fields, f.type.nesting + 5 ≤ Reader.depthLimit) →
        read (modelText r) = .ok r.toJson) ∧
      ∀ r' : Registry, r'.Spelled (·.isString) → modelText r = modelText r' →
        r.outline = r'.outline) := by
  refine ⟨fun c hc => (portable_modelText r c hc).1,
    fun path store store' h => readText_modelText (writeModel_succeeds h),
    fun t t' => FieldType.toJson_injective, fun hnames => ?_⟩
  exact ⟨readWithin_modelText hnames, fun depth => decodeWithin_modelText hnames,
    read_modelText hnames, fun r' => outline_eq_of_modelText_eq hnames⟩

/-- Classes whose names need escapes and surrogate pairs, and a list of lists. -/
def escapedRegistry : Registry :=
  ⟨[{ name := "\"Nöde\"\\", fields := [⟨"\ud7ff\ue000", .list (.list (.ref "😀"))⟩] },
    { name := "😀\x7f\n" }]⟩

theorem escaped_modelText_decodes :
    (∃ store, writeModel escapedRegistry "out/model.json" {} = (store, none) ∧
      store.readText "out/model.json" = .ok (modelText escapedRegistry)) ∧
    escapedRegistry.Spelled (·.isString) ∧
    (∀ c ∈ escapedRegistry.classes, ∀ f ∈ c.fields, f.type.nesting + 5 ≤ Reader.depthLimit) ∧
    read (modelText escapedRegistry) = .ok escapedRegistry.toJson ∧
    decodeWithin 8 (modelText escapedRegistry) = some escapedRegistry.outline ∧
    escapedRegistry.outline.map (·.1) = [("\"Nöde\"\\" : Points), "😀\x7f\n"] := by
  have hmade : prepareDirectory "out/model.json" {} = (⟨[(["out"], .directory)]⟩, none) := by
    decide +kernel
  obtain ⟨store, hwrite⟩ := writeModel_of_accepts hmade
    ⟨_, ⟨["out"], "model.json", by decide +kernel, rfl⟩, by decide +kernel⟩ escapedRegistry
  have hnames : escapedRegistry.Spelled (·.isString) := by
    simp [Registry.Spelled, escapedRegistry, FieldType.Spelled]
  have hnesting : ∀ c ∈ escapedRegistry.classes, ∀ f ∈ c.fields,
      f.type.nesting + 5 ≤ Reader.depthLimit := by decide +kernel
  have hdepth : escapedRegistry.toJson.nesting ≤ 8 := by decide +kernel
  obtain ⟨_, hfile, _, h⟩ := modelText_decodes escapedRegistry
  obtain ⟨_, hdecodes, hreads, _⟩ := h hnames
  exact ⟨⟨store, hwrite, hfile _ {} store hwrite⟩, hnames, hnesting, hreads hnesting,
    hdecodes 8 hdepth, rfl⟩

end SampleSchema.Convert
