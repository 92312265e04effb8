import SampleSchema.Proofs.CommandLine.InputRoutes
/-!
A model in a file and the same one on the standard output.

* `runAlong_modelVerb`: where nothing else is at fault, there is a model or the document is
  at fault;
* `runValues_kept`, `runValues_printed`: the model is in the file that it is asked for in,
  or else it is printed;
* `routes_agree`: a document is treated alike in a file and on the standard input, and a
  model is the same in a file and on the standard output.
-/

namespace SampleSchema.CommandLine

open Json Files Text SampleSchema.Convert

variable {r : Route} {setting : Setting} {values : List (String × Value)}
  {directory : Location} {path file text : String}

/-! ## Models -/

/-- A route along which nothing but the document can be at fault for a missing model. -/
structure Route.Clear (r : Route) (root out text : String) : Prop where
  rootName : textUnder? "root" r.values = some root
  rootGiven : root ≠ ""
  read : r.store.readText r.input = .ok text
  output : r.output = .string out
  outputGiven : out ≠ ""
  writable : Writable r.store out

/-- A model that can be written is written, and printed if the output is captured. -/
theorem runAlong_modelVerb {root out : String} (h : r.Clear root out text) (verbose : Bool) :
    match (inferText (isSet "strict" r.values) root text).result with
    | .error failure =>
        (runAlong modelVerb verbose r).ending = .ofFailure failure ∧
        (runAlong modelVerb verbose r).stdout =
          (if r.captured then "" else executing modelVerb out r.input) ++ report failure
    | .ok registry =>
        (runAlong modelVerb verbose r).ending = .status 0 ∧
        (r.captured = true → (runAlong modelVerb verbose r).stdout = modelText registry) ∧
        ∃ written : Store,
          (runAlong modelVerb verbose r).store = removeFiles written r.temporary ∧
            written.readBytes out = .ok (Utf8.encode (modelText registry).toList) := by
  have hverb : modelVerb ∈ verbs := List.mem_pair.mpr (Or.inr rfl)
  have hargument : argumentAt .output (r.arguments modelVerb) = some (.string out) := by
    have htrue : isTruthy (.string out) = true := by simp [isTruthy, h.outputGiven]
    rw [Route.arguments, (argumentAt_shared hverb _ _ _).2.1, h.output, if_pos htrue]
  have hroot : textAt .root (r.arguments modelVerb) = root := Route.textAt_root hverb h.rootName
  have hread : r.store.readText (textAt .input (r.arguments modelVerb)) = .ok text := by
    rw [Route.textAt_input hverb]
    exact h.read
  have hperform := perform_modelFile (hroot.symm ▸ h.rootGiven) hread hargument h.writable
  rw [truthAt_strict hverb, hroot] at hperform
  rw [runAlong_eq, h.output]
  have houtcome : Job.modelFile.perform (r.arguments modelVerb) r.store = r.outcome modelVerb := rfl
  rw [houtcome] at hperform
  generalize r.outcome modelVerb = outcome at *
  split
  · rename_i failure hresult
    simp only [hresult] at hperform
    simp only [conclude, hperform]
    exact ⟨trivial, rfl⟩
  · rename_i registry hresult
    simp only [hresult] at hperform
    obtain ⟨hnone, hbytes⟩ := hperform
    have hconclude : conclude r.captured (pathText (.string out)) outcome =
        (.status 0, if r.captured then modelText registry else "") := by
      simp only [conclude, hnone, pathText, readText_modelText hbytes]
      split <;> rfl
    rw [hconclude]
    refine ⟨rfl, fun hcaptured => ?_, outcome.store, rfl, hbytes⟩
    simp only [if_pos hcaptured, String.empty_append]

theorem runValues_modelVerb (setting : Setting) (hversion : isSet "version" values = false)
    (hcommand : textUnder? commandKey values = some "j2model") :
    runValues setting values =
      runAlong modelVerb (isSet "verbose" values) (route setting values) := by
  rw [runValues, hversion, textUnder?_eq_some hcommand]
  rfl

/-- One run keeps the model in a file, and another one prints it. If there is a model, what
is printed is what is kept. If not, both end in the same way and print the same about it. -/
def ModelsAgree (inference : Inference) (path input : String) (kept printed : Session) : Prop :=
  match inference.result with
  | .error failure =>
      kept.ending = .ofFailure failure ∧ printed.ending = .ofFailure failure ∧
        printed.stdout = report failure ∧
        kept.stdout = executing modelVerb path input ++ printed.stdout
  | .ok registry =>
      kept.ending = .status 0 ∧ printed.ending = .status 0 ∧
        printed.stdout = modelText registry ∧
        kept.store.readBytes path = .ok (Utf8.encode printed.stdout.toList)

/-- Fewer paths are written to when the output is captured. -/
theorem Setting.Fresh.capture (h : setting.Fresh values directory file) :
    setting.Fresh (putMember "out" .null values) directory file where
  input := h.input
  output := h.output
  unused := by
    have hout : textUnder? "out" (putMember "out" .null values) = none := by
      rw [textUnder?, member?_putMember, if_pos rfl]
    rw [hout, textUnder?_putMember_of_ne (by decide)]
    intro out hmem
    exact h.unused out (List.mem_cons.mpr (Or.inl (List.mem_singleton.mp hmem)))
  ending := h.ending

section

variable {root : String} (hfresh : setting.Fresh values directory file)
  (hroot : textUnder? "root" values = some root) (hne : root ≠ "")
  (hversion : isSet "version" values = false)
  (hcommand : textUnder? commandKey values = some "j2model") (hholds : setting.Holds values text)

include hfresh hroot hne hversion hcommand hholds

/-- A model that is asked for in a file is there in the end. -/
theorem runValues_kept (hout : textUnder? "out" values = some path) (hempty : path ≠ "")
    (hwritable : Writable setting.store path) :
    match (inferText (isSet "strict" values) root
      (String.ofList (lineFeedsOnly text.toList))).result with
    | .error failure =>
        (runValues setting values).ending = .ofFailure failure ∧
        (runValues setting values).stdout =
          executing modelVerb path (routeInput setting values).input ++ report failure
    | .ok registry =>
        (runValues setting values).ending = .status 0 ∧
        (runValues setting values).store.readBytes path =
          .ok (Utf8.encode (modelText registry).toList) := by
  have hset := isSet_of_text hroot hne
  have hvalues := routeInput_values setting hset
  have hmember : (member? "out" (routeInput setting values).values).getD .null =
      .string path := by
    rw [hvalues, textUnder?_eq_some hout]
    rfl
  have hroute : route setting values =
      { routeInput setting values with output := .string path } := by
    rw [route, routeOutput_of_value (by simp [hmember]), hmember]
  obtain ⟨hpath, _⟩ := hfresh.unused path (by simp [hout])
  have hclear : (route setting values).Clear root path
      (String.ofList (lineFeedsOnly text.toList)) := by
    rw [hroute]
    exact
      { rootName := (congrArg (textUnder? "root") hvalues).trans hroot
        rootGiven := hne
        read := hfresh.readText hset hholds
        output := rfl
        outputGiven := hempty
        writable := hfresh.writable hpath hwritable }
  have hrun := runAlong_modelVerb hclear (isSet "verbose" values)
  rw [route_values setting hset, hroute] at hrun
  rw [runValues_modelVerb setting hversion hcommand, hroute]
  revert hrun
  split
  · rintro ⟨hending, hstdout⟩
    refine ⟨hending, ?_⟩
    simpa only [routeInput_captured, Bool.false_eq_true, ↓reduceIte] using hstdout
  · rintro ⟨hending, _, written, hstore, hbytes⟩
    refine ⟨hending, ?_⟩
    rw [hstore, readBytes_removeFiles, hbytes]
    intro temporary htemporary name hname
    rw [mem_temporary htemporary, hfresh.input.last_name] at hname
    cases hname
    exact hpath

/-- A model that no path is given for is printed. -/
theorem runValues_printed (hout : member? "out" values = some .null) :
    match (inferText (isSet "strict" values) root
      (String.ofList (lineFeedsOnly text.toList))).result with
    | .error failure =>
        (runValues setting values).ending = .ofFailure failure ∧
        (runValues setting values).stdout = report failure
    | .ok registry =>
        (runValues setting values).ending = .status 0 ∧
        (runValues setting values).stdout = modelText registry := by
  have hset := isSet_of_text hroot hne
  have hvalues := routeInput_values setting hset
  obtain ⟨above, name, hvacant⟩ := hfresh.output
  have hplace := vacant_routeInput setting values hfresh.input hvacant
    (Store.concat_ne (hvacant.ne_of_not_mem (hfresh.unused _ List.mem_cons_self).1))
  have hnull : (member? "out" (routeInput setting values).values).getD .null = .null := by
    rw [hvalues, hout]
    rfl
  have hroute := routeOutput_of_null setting hnull
  have hclear : (route setting values).Clear root setting.temporaryOutput
      (String.ofList (lineFeedsOnly text.toList)) := by
    rw [route, hroute]
    exact
      { rootName := (congrArg (textUnder? "root") hvalues).trans hroot
        rootGiven := hne
        read := (createTemporary_keeps hplace "").readText (hfresh.readText hset hholds)
        output := rfl
        outputGiven := Store.ne_empty_of_locate hplace.located
        writable := by
          rw [createTemporary_of_vacant hplace]
          exact writable_of_vacant hplace _ }
  have hcaptured : (route setting values).captured = true := by
    rw [route, hroute]
  have hrun := runAlong_modelVerb hclear (isSet "verbose" values)
  rw [route_values setting hset] at hrun
  rw [runValues_modelVerb setting hversion hcommand]
  revert hrun
  split
  · rintro ⟨hending, hstdout⟩
    rw [if_pos hcaptured, String.empty_append] at hstdout
    exact ⟨hending, hstdout⟩
  · rintro ⟨hending, hstdout, _⟩
    exact ⟨hending, hstdout hcaptured⟩

/-- A model is the same in a file and on the standard output. -/
theorem runValues_modelsAgree (hout : textUnder? "out" values = some path) (hempty : path ≠ "")
    (hwritable : Writable setting.store path) :
    ModelsAgree
      (inferText (isSet "strict" values) root (String.ofList (lineFeedsOnly text.toList)))
      path (routeInput setting values).input
      (runValues setting values) (runValues setting (putMember "out" .null values)) := by
  have hsets (key : String) (hkey : key ≠ "out") :=
    isSet_putMember_of_ne hkey .null values
  have htexts (key : String) (hkey : key ≠ "out") :=
    textUnder?_putMember_of_ne hkey .null values
  have hout' : member? "out" (putMember "out" .null values) = some .null := by
    rw [member?_putMember, if_pos rfl]
  have hholds' : setting.Holds (putMember "out" .null values) text := by
    unfold Setting.Holds
    rw [htexts "input" (by decide)]
    exact hholds
  have hkept := runValues_kept hfresh hroot hne hversion hcommand hholds hout hempty hwritable
  have hprinted := runValues_printed hfresh.capture
    ((htexts "root" (by decide)).trans hroot) hne
    ((hsets "version" (by decide)).trans hversion)
    ((htexts commandKey (by decide)).trans hcommand) hholds' hout'
  rw [hsets "strict" (by decide)] at hprinted
  unfold ModelsAgree
  revert hkept hprinted
  split
  · rintro ⟨hending, hstdout⟩ ⟨hending', hstdout'⟩
    exact ⟨hending, hending', hstdout', hstdout' ▸ hstdout⟩
  · rintro ⟨hending, hbytes⟩ ⟨hending', hstdout'⟩
    exact ⟨hending, hending', hstdout', hstdout' ▸ hbytes⟩

end

/-! ## Runs -/

private theorem run_of_parse {arguments : List String} (h : parseArguments arguments = .ok values) :
    run setting arguments = runValues setting values := by
  rw [run, h]

/-- The routes of the command line agree. A run whose document is in a file and one whose
document is on the standard input end in the same way, leave the same files behind and
print the same but for the path of the document. A run that keeps the model in a file and
one that prints it tell the same model, or fail in the same way. -/
theorem routes_agree (hfresh : setting.Fresh values directory file)
    {root : String} (hroot : textUnder? "root" values = some root) (hne : root ≠ "")
    (text : String) {arguments : List String} (hvalues : parseArguments arguments = .ok values) :
    (∀ arguments' path stdin,
      parseArguments arguments' = .ok (putMember "input" .null values) →
      textUnder? "input" values = some path →
      setting.store.readBytes path = .ok (Utf8.encode text.toList) →
      lineFeedsOnly stdin.toList = lineFeedsOnly text.toList →
      SameRun path setting.temporaryInput (run setting arguments)
        (run { setting with stdin } arguments')) ∧
    ∀ arguments' path,
      parseArguments arguments' = .ok (putMember "out" .null values) →
      isSet "version" values = false →
      textUnder? commandKey values = some "j2model" →
      textUnder? "out" values = some path → path ≠ "" →
      Writable setting.store path →
      setting.Holds values text →
      ModelsAgree
        (inferText (isSet "strict" values) root (String.ofList (lineFeedsOnly text.toList)))
        path (routeInput setting values).input (run setting arguments)
        (run setting arguments') := by
  refine ⟨fun arguments' path stdin hvalues' hinput hread hstdin => ?_,
    fun arguments' path hvalues' hversion hcommand hout hempty hwritable hholds => ?_⟩
  · rw [run_of_parse hvalues, run_of_parse hvalues']
    exact runValues_sameRun hfresh hroot hne hinput hread hstdin
  · rw [run_of_parse hvalues, run_of_parse hvalues']
    exact runValues_modelsAgree hfresh hroot hne hversion hcommand hholds hout hempty hwritable

/-- A document with two kinds of line end. -/
def orderText : String := "\x7b\"id\": 1,\r\n \"lines\": [\x7b\"sku\": \"A\"\x7d]\n\x7d"

/-- The document in a file, and on the standard input with its line ends turned. -/
def orderSetting : Setting where
  store := ⟨[(["order.json"], .file (Utf8.encode orderText.toList)), (["tmp"], .directory)]⟩
  stdin := String.ofList (lineFeedsOnly orderText.toList)
  temporaryInput := "tmp/copy.json"
  temporaryOutput := "tmp/model"

def orderArguments (input output : List String) : List String :=
  "j2model" :: input ++ output ++ ["--root", "Order", "--strict"]

def orderValues : List (String × Value) :=
  [("version", .bool false), ("verbose", .bool false), ("command", .string "j2model"),
    ("input", .string "order.json"), ("out", .string "out/model.json"),
    ("root", .string "Order"), ("strict", .bool true)]

theorem order_routes_agree :
    parseArguments (orderArguments ["order.json"] ["--out", "out/model.json"]) =
      .ok orderValues ∧
    parseArguments (orderArguments [] ["--out", "out/model.json"]) =
      .ok (putMember "input" .null orderValues) ∧
    parseArguments (orderArguments ["order.json"] []) =
      .ok (putMember "out" .null orderValues) ∧
    orderSetting.Fresh orderValues ["tmp"] "copy.json" ∧
    Writable orderSetting.store "out/model.json" ∧
    orderSetting.Holds orderValues orderText ∧
    lineFeedsOnly orderSetting.stdin.toList = lineFeedsOnly orderText.toList ∧
    SameRun "order.json" "tmp/copy.json"
      (run orderSetting (orderArguments ["order.json"] ["--out", "out/model.json"]))
      (run orderSetting (orderArguments [] ["--out", "out/model.json"])) ∧
    ModelsAgree
      (inferText true "Order" (String.ofList (lineFeedsOnly orderText.toList)))
      "out/model.json" "order.json"
      (run orderSetting (orderArguments ["order.json"] ["--out", "out/model.json"]))
      (run orderSetting (orderArguments ["order.json"] [])) := by
  have hvalues : parseArguments (orderArguments ["order.json"] ["--out", "out/model.json"]) =
      .ok orderValues := rfl
  have hvalues₁ : parseArguments (orderArguments [] ["--out", "out/model.json"]) =
      .ok (putMember "input" .null orderValues) := rfl
  have hvalues₂ : parseArguments (orderArguments ["order.json"] []) =
      .ok (putMember "out" .null orderValues) := rfl
  have hfresh : orderSetting.Fresh orderValues ["tmp"] "copy.json" :=
    { input := ⟨rfl, rfl⟩
      output := ⟨["tmp"], "model", rfl, rfl⟩
      unused := by decide +kernel
      ending := by decide }
  have hwritable : Writable orderSetting.store "out/model.json" :=
    ⟨_, ["out"], "model.json", rfl, rfl, nofun⟩
  have hread : orderSetting.store.readBytes "order.json" =
      .ok (Utf8.encode orderText.toList) := rfl
  have hstdin : lineFeedsOnly orderSetting.stdin.toList = lineFeedsOnly orderText.toList := by
    rw [orderSetting, String.toList_ofList, lineFeedsOnly_idem]
  have h := routes_agree hfresh rfl (by decide) orderText hvalues
  exact ⟨hvalues, hvalues₁, hvalues₂, hfresh, hwritable, hread, hstdin,
    h.1 _ _ _ hvalues₁ rfl hread hstdin,
    h.2 _ _ hvalues₂ rfl rfl rfl (by decide) hwritable hread⟩

end SampleSchema.CommandLine
