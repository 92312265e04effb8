import SampleSchema.Proofs.CommandLine.Runs
/-!
What runs leave behind when they fail.

* `temporaries`: the temporary files of a command;
* `run_cleans`, `runBytes_cleans`: they are gone after every run;
* `runBytes_rejected`: a run leaves everything as it was if its document is rejected;
* `failures_leave_no_trace`: this and the same for the conversions by themselves.
-/

namespace SampleSchema.CommandLine

open Json Files Text SampleSchema.Convert

variable {verb : Verb} {setting : Setting} {values : List (String × Value)}
  {arguments : List String} {failure : Failure} {above above' : Location} {name name' : String}

/-! ## Temporary files -/

/-- The temporary files that a command makes for its input and its output. -/
def temporaries (setting : Setting) (values : List (String × Value)) : List String :=
  (if (textUnder? "input" values).isNone then [setting.temporaryInput] else []) ++
    match (member? "out" values).getD .null with
    | .null => [setting.temporaryOutput]
    | _ => []

/-- The temporary files that a run makes. A run that stops at its input makes the first of
them only. -/
def temporariesOfRun (setting : Setting) (arguments : List String) : List String :=
  match performed? arguments with
  | some (_, values) => temporaries setting values
  | none => []

private theorem temporary_routeInput (setting : Setting) (values : List (String × Value)) :
    (routeInput setting values).temporary =
      if (textUnder? "input" values).isNone then [setting.temporaryInput] else [] := by
  cases h : textUnder? "input" values with
  | some path =>
    rw [routeInput_of_path h]
    rfl
  | none =>
    rw [routeInput_of_none h]
    rfl

theorem temporary_route (setting : Setting) (values : List (String × Value)) :
    (route setting values).temporary = temporaries setting values := by
  have hout : member? "out" (routeInput setting values).values = member? "out" values :=
    member?_routeInput (by decide) setting values
  unfold temporaries
  rw [← temporary_routeInput, route]
  by_cases hnull : (member? "out" values).getD .null = .null
  · rw [routeOutput_of_null setting (by rw [hout, hnull]), hnull]
  · rw [routeOutput_of_value (by rwa [hout])]
    split
    · contradiction
    · rw [List.append_nil]

/-! ## Runs -/

theorem restored_of_stop (h : setting.Places above name above' name') (fault : Utf8.Fault) :
    (stopAtInput setting fault).store = setting.store := by
  have hkeeps := createTemporary_keeps h.input ""
  show (createTemporary setting.store setting.temporaryInput "").removeFile setting.temporaryInput =
    setting.store
  rw [h.input.removeFile hkeeps.directories, createTemporary_of_vacant h.input, h.input.erase_set]

/-- The temporary files of a run are gone in the end. -/
theorem run_cleans (h : setting.Places above name above' name')
    (hperformed : performed? arguments = some (verb, values)) {path : String}
    (hpath : path ∈ temporaries setting values) :
    (run setting arguments).store.pathExists path = false := by
  obtain ⟨_, hrun⟩ := run_of_performed hperformed setting
  rw [hrun, runAlong_eq]
  apply (h.prepared values).cleaned (writes_perform verb.job _ _)
  rwa [temporary_route]

/-- A run leaves everything as it was if its document is rejected. -/
theorem run_rejected (h : setting.Places above name above' name')
    (hperformed : performed? arguments = some (verb, values))
    (hrejects : (route setting values).Rejects verb failure) :
    (run setting arguments).store = setting.store := by
  obtain ⟨hverb, hrun⟩ := run_of_performed hperformed setting
  have hstore : ((route setting values).outcome verb).store = (route setting values).store := by
    by_cases hout : (route setting values).HasOutput
    · exact (outcome_rejected hverb hout hrejects).2
    · rw [outcome_of_no_output hverb hout]
  rw [hrun, runAlong_eq]
  show removeFiles ((route setting values).outcome verb).store (route setting values).temporary =
    setting.store
  rw [hstore, (h.prepared values).restored]

private theorem temporaries_reading (setting : Setting) (stdin : List UInt8)
    (values : List (String × Value)) :
    temporaries (setting.reading stdin) values = temporaries setting values := by
  unfold Setting.reading
  split <;> rfl

/-- The temporary files of a run are gone in the end, however it ends. -/
theorem runBytes_cleans (h : setting.Places above name above' name') (stdin : List UInt8)
    {path : String} (hpath : path ∈ temporariesOfRun setting arguments) :
    (runBytes setting stdin arguments).store.pathExists path = false := by
  unfold temporariesOfRun at hpath
  split at hpath
  · rename_i verb values hperformed
    rcases runBytes_cases setting stdin arguments with ⟨fault, _, hrun⟩ | ⟨_, hrun⟩
    · rw [hrun, restored_of_stop h]
      have hmem : path ∈ (route setting values).temporary := by rwa [temporary_route]
      obtain ⟨_, _, hvacant, _⟩ := (h.prepared values).made path hmem
      exact hvacant.gone (Store.KeepsDirectories.refl _) hvacant.vacant
    · rw [hrun]
      apply run_cleans (h.reading stdin) hperformed
      rwa [temporaries_reading]
  · cases hpath

/-- A failure leaves no trace. A conversion that fails for its document leaves the store as
it was, and it fails for nothing else but its output. A run leaves none of its temporary
files behind, however it ends, and it leaves everything as it was if there is no text on the
standard input or if its document is rejected. -/
theorem failures_leave_no_trace (h : setting.Places above name above' name')
    (stdin : List UInt8) (arguments : List String) :
    (∀ strict style root input out s,
      FailsClean strict root input s (JavaFault style)
        (jsonToJava strict style root input out s).result
        (jsonToJava strict style root input out s).store ∧
      FailsClean strict root input s ModelFault (jsonToModel strict root input out s).result
        (jsonToModel strict root input out s).store) ∧
    (∀ path ∈ temporariesOfRun setting arguments,
      (runBytes setting stdin arguments).store.pathExists path = false) ∧
    (∀ fault, StopsAtInput stdin arguments fault →
      (runBytes setting stdin arguments).store = setting.store) ∧
    ∀ verb values failure, performed? arguments = some (verb, values) →
      (route (setting.reading stdin) values).Rejects verb failure →
      (runBytes setting stdin arguments).store = setting.store := by
  refine ⟨fun strict style root input out s => ⟨?_, ?_⟩,
    fun path hpath => runBytes_cleans h stdin hpath, fun fault hstop => ?_,
    fun verb values failure hperformed hrejects => ?_⟩
  · exact ⟨fun _ hrejects => jsonToJava_rejected hrejects,
      fun _ hfailed => jsonToJava_failed hfailed⟩
  · exact ⟨fun _ hrejects => jsonToModel_rejected hrejects,
      fun _ hfailed => jsonToModel_failed hfailed⟩
  · rw [runBytes_of_stop hstop, restored_of_stop h]
  · rcases runBytes_cases setting stdin arguments with ⟨fault, _, hrun⟩ | ⟨_, hrun⟩
    · rw [hrun, restored_of_stop h]
    · rw [hrun, run_rejected (h.reading stdin) hperformed hrejects, store_reading]

/-- An array on the standard input, and places for temporary files. -/
def rootlessSetting : Setting where
  store := ⟨[(["tmp"], .directory)]⟩
  stdin := ""
  temporaryInput := "tmp/copy.json"
  temporaryOutput := "tmp/model"

def rootlessInput : List UInt8 := Utf8.encode ['[', ']']

theorem rootless_leaves_no_trace :
    rootlessSetting.Places ["tmp"] "copy.json" ["tmp"] "model" ∧
      temporariesOfRun rootlessSetting ["j2model"] = ["tmp/copy.json", "tmp/model"] ∧
      (∀ path ∈ ["tmp/copy.json", "tmp/model"],
        (runBytes rootlessSetting rootlessInput ["j2model"]).store.pathExists path = false) ∧
      (runBytes rootlessSetting rootlessInput ["j2model"]).store = rootlessSetting.store := by
  have hplaces : rootlessSetting.Places ["tmp"] "copy.json" ["tmp"] "model" :=
    ⟨⟨rfl, rfl⟩, ⟨rfl, rfl⟩, by simp⟩
  have h := failures_leave_no_trace hplaces rootlessInput ["j2model"]
  refine ⟨hplaces, rfl, h.2.1, ?_⟩
  apply h.2.2.2 modelVerb _ _ rfl
  exact .unfit rfl rfl rfl

end SampleSchema.CommandLine
