import SampleSchema.Proofs.CommandLine.Jobs
/-!
Where a run reads from and writes to.

* `runAlong_eq`: a run announces its job, performs it and concludes;
* `createTemporary_of_vacant`: a temporary file is made where nothing is;
* `Setting.Fresh`: the temporary files are new, and a command has nothing else to do with
  the one that the standard input is copied to;
* `Setting.Fresh.readText`: what a run reads is its document, in a file or copied from the
  standard input;
* `route_values`, `route_output`: a route keeps the values of the parameters, and leads to a
  temporary file or to the path that is given.
-/

namespace SampleSchema.CommandLine

open Json Files Text SampleSchema.Convert

variable {r : Route} {verb : Verb} {setting : Setting} {values : List (String × Value)}
  {s : Store} {directory : Location} {path file text : String}

/-! ## What a run does -/

def executing (verb : Verb) (output input : String) : String :=
  "Executing " ++ verb.description ++ " with input " ++ input ++ " and output " ++ output ++ "\n"

def Route.arguments (verb : Verb) (r : Route) : List (Slot × Value) :=
  bindArguments verb.bindings r.values (.string r.input) r.output

def Route.outcome (verb : Verb) (r : Route) : JobOutcome :=
  verb.job.perform (r.arguments verb) r.store

/-- A run announces its job unless it prints the output, performs it and concludes. -/
theorem runAlong_eq (verb : Verb) (verbose : Bool) (r : Route) :
    runAlong verb verbose r =
      { ending := (conclude r.captured (pathText r.output) (r.outcome verb)).1
        stdout := (if r.captured then "" else executing verb (pathText r.output) r.input) ++
          (conclude r.captured (pathText r.output) (r.outcome verb)).2
        log := (r.outcome verb).log, verbose
        store := removeFiles (r.outcome verb).store r.temporary } := rfl

theorem Route.textAt_input (hverb : verb ∈ verbs) : textAt .input (r.arguments verb) = r.input := by
  rw [textAt, Route.arguments, (argumentAt_shared hverb _ _ _).1]

private theorem textAt_of_member {slot : Slot} {arguments : List (Slot × Value)} {key : String}
    {values : List (String × Value)} (h : argumentAt slot arguments = member? key values) :
    textAt slot arguments = (textUnder? key values).getD "" := by
  rw [textAt, h, textUnder?]
  cases member? key values with
  | none => rfl
  | some v => cases v <;> rfl

theorem Route.textAt_root (hverb : verb ∈ verbs) {root : String}
    (h : textUnder? "root" r.values = some root) : textAt .root (r.arguments verb) = root := by
  have hargument := (argumentAt_shared hverb r.values (.string r.input) r.output).2.2.1
  rw [Route.arguments, textAt_of_member hargument, h, Option.getD_some]

theorem Route.output_eq (hverb : verb ∈ verbs) {v : Value}
    (h : argumentAt .output (r.arguments verb) = some v) : r.output = v := by
  rw [Route.arguments, (argumentAt_shared hverb _ _ _).2.1] at h
  split at h
  · exact Option.some.inj h
  · cases h

/-- A package is the value of its parameter, if there is one. -/
theorem packageAt_javaVerb :
    packageAt (r.arguments javaVerb) =
      match member? "package" r.values with
      | none => .ok ""
      | some (.string s) => .ok s
      | some v => .error (.noText (kindName v)) := by
  have hargument := argumentAt_bindArguments (nodup_slots javaVerb List.mem_cons_self) .package
    r.values (.string r.input) r.output
  rw [packageAt, Route.arguments, hargument]
  rfl

private theorem packageAt_cases (hverb : verb ∈ verbs) {package : String}
    (h : packageAt (r.arguments verb) = .ok package) :
    package = "" ∨ package = (textUnder? "package" r.values).getD "" := by
  rcases List.mem_pair.mp hverb with rfl | rfl
  · rw [packageAt_javaVerb] at h
    unfold textUnder?
    split at h
    · exact Or.inl (Except.ok.inj h).symm
    · rename_i s hs
      rw [hs]
      exact Or.inr (Except.ok.inj h).symm
    · cases h
  · have hargument := argumentAt_bindArguments (nodup_slots modelVerb hverb) .package r.values
      (.string r.input) r.output
    rw [packageAt, Route.arguments, hargument] at h
    exact Or.inl (Except.ok.inj h).symm

theorem truthAt_strict (hverb : verb ∈ verbs) :
    truthAt .strict false (r.arguments verb) = isSet "strict" r.values := by
  rw [truthAt, Route.arguments, (argumentAt_shared hverb _ _ _).2.2.2, isSet]
  cases member? "strict" r.values <;> rfl

/-! ## Temporary files -/

theorem createTemporary_of_vacant (h : s.Vacant path directory file)
    (text : String) :
    createTemporary s path text =
      s.set (directory ++ [file]) (.file (Utf8.encode text.toList)) := by
  rw [createTemporary, Store.writeText_of_isString (Points.isString_ofString text),
    Points.shown_ofString, h.writeBytes]

theorem createTemporary_erase (h : file ∉ Path.names path) (text : String) :
    createTemporary (s.erase (directory ++ [file])) path text =
      (createTemporary s path text).erase (directory ++ [file]) := by
  unfold createTemporary
  rw [Store.writeText_erase h]

/-- A temporary file that is made is there beside everything else. -/
theorem createTemporary_keeps (h : s.Vacant path directory file) (text : String) :
    s.Keeps (createTemporary s path text) := by
  rw [createTemporary_of_vacant h]
  exact h.keeps _

theorem readText_createTemporary (h : s.Vacant path directory file)
    (text : String) :
    (createTemporary s path text).readText path =
      .ok (String.ofList (lineFeedsOnly text.toList)) := by
  rw [createTemporary_of_vacant h]
  exact readText_of_readBytes (Store.readBytes_writeBytes_self (h.writeBytes _))

theorem readBytes_removeFiles {paths : List String} {other : String}
    (h : ∀ path ∈ paths, ∀ name, (Path.names path).getLast? = some name →
      name ∉ Path.names other) :
    (removeFiles s paths).readBytes other = s.readBytes other := by
  induction paths generalizing s with
  | nil => rfl
  | cons path rest ih =>
    have hrest := ih (s := s.removeFile path) fun later hlater =>
      h later (List.mem_cons_of_mem path hlater)
    rw [removeFiles, List.foldl_cons]
    exact hrest.trans (Store.readBytes_removeFile (h path List.mem_cons_self))

/-! ## Routes -/

theorem isSet_of_text {key : String} (h : textUnder? key values = some text) (hne : text ≠ "") :
    isSet key values = true := by
  simp [isSet, textUnder?_eq_some h, isTruthy, hne]

theorem routeInput_of_path (h : textUnder? "input" values = some path) :
    routeInput setting values =
      { input := path, output := .null, captured := false, values, store := setting.store,
        temporary := [] } := by
  rw [routeInput, textUnder?_eq_some h]

theorem routeInput_of_none (h : textUnder? "input" values = none) :
    routeInput setting values =
      { input := setting.temporaryInput, output := .null, captured := false
        values := nameUnnamed values
        store := createTemporary setting.store setting.temporaryInput setting.stdin
        temporary := [setting.temporaryInput] } := by
  unfold textUnder? at h
  unfold routeInput
  split
  · rename_i path hpath
    rw [hpath] at h
    cases h
  · rfl

theorem routeInput_of_stdin (h : textUnder? "input" values = none)
    (hroot : isSet "root" values = true) :
    routeInput setting values =
      { input := setting.temporaryInput, output := .null, captured := false, values
        store := createTemporary setting.store setting.temporaryInput setting.stdin
        temporary := [setting.temporaryInput] } := by
  rw [routeInput_of_none h, nameUnnamed, if_pos hroot]

theorem routeInput_values (setting : Setting) (hroot : isSet "root" values = true) :
    (routeInput setting values).values = values := by
  unfold routeInput
  split
  · rfl
  · exact if_pos hroot

/-- A route keeps the values of all parameters but that for the root name. -/
theorem member?_routeInput {key : String} (hkey : key ≠ "root") (setting : Setting)
    (values : List (String × Value)) :
    member? key (routeInput setting values).values = member? key values := by
  unfold routeInput
  split
  · rfl
  · show member? key (nameUnnamed values) = member? key values
    unfold nameUnnamed
    split
    · rfl
    · exact member?_putMember_of_ne hkey _ values

theorem routeInput_captured (setting : Setting) (values : List (String × Value)) :
    (routeInput setting values).captured = false := by
  unfold routeInput
  split <;> rfl

theorem routeOutput_of_value (h : (member? "out" r.values).getD .null ≠ .null) :
    routeOutput setting r = { r with output := (member? "out" r.values).getD .null } := by
  unfold routeOutput
  split
  · contradiction
  · rfl

theorem routeOutput_of_null (setting : Setting)
    (h : (member? "out" r.values).getD .null = .null) :
    routeOutput setting r =
      { r with
        output := .string setting.temporaryOutput
        captured := true
        store := createTemporary r.store setting.temporaryOutput ""
        temporary := r.temporary ++ [setting.temporaryOutput] } := by
  rw [routeOutput, h]

/-- Where a route can lead: to the temporary file, or to the path that is given. -/
theorem routeOutput_output (setting : Setting) (r : Route) (hr : r.captured = false) :
    ((routeOutput setting r).captured = true →
      (routeOutput setting r).output = .string setting.temporaryOutput) ∧
    ∀ out, (routeOutput setting r).output = .string out →
      out ∈ setting.temporaryOutput :: (textUnder? "out" r.values).toList := by
  by_cases hnull : (member? "out" r.values).getD .null = .null
  · rw [routeOutput_of_null setting hnull]
    exact ⟨fun _ => rfl, fun out hout => by simp [Tree.string.inj hout]⟩
  · rw [routeOutput_of_value hnull]
    refine ⟨fun hcaptured => ?_, fun out hout => ?_⟩
    · rw [hr] at hcaptured
      cases hcaptured
    · cases hmember : member? "out" r.values with
      | none => simp [hmember] at hout
      | some v =>
        simp only [hmember, Option.getD_some] at hout
        simp [textUnder?, hmember, hout]

theorem routeOutput_input : (routeOutput setting r).input = r.input := by
  unfold routeOutput
  split <;> rfl

theorem routeOutput_values : (routeOutput setting r).values = r.values := by
  unfold routeOutput
  split <;> rfl

theorem route_values (setting : Setting) (hroot : isSet "root" values = true) :
    (route setting values).values = values := by
  rw [route, routeOutput_values, routeInput_values setting hroot]

/-- Where a command can lead: to the temporary file, or to the path that is given. -/
theorem route_output (setting : Setting) (hroot : isSet "root" values = true) :
    ((route setting values).captured = true →
      (route setting values).output = .string setting.temporaryOutput) ∧
    ∀ out, (route setting values).output = .string out →
      out ∈ setting.temporaryOutput :: (textUnder? "out" values).toList := by
  have houtput := routeOutput_output setting (routeInput setting values)
    (routeInput_captured setting values)
  rwa [routeInput_values setting hroot] at houtput

/-! ## New files -/

/-- The temporary files are new. The one for the standard input has a name that is not in
the paths which the command writes to, and it is not that of a Java file. -/
structure Setting.Fresh (setting : Setting) (values : List (String × Value))
    (directory : Location) (file : String) : Prop where
  input : setting.store.Vacant setting.temporaryInput directory file
  output : ∃ above name, setting.store.Vacant setting.temporaryOutput above name
  unused : ∀ out ∈ setting.temporaryOutput :: (textUnder? "out" values).toList,
    file ∉ Path.names out ∧
      file ∉ Path.names (packageDirectory out ((textUnder? "package" values).getD ""))
  ending : ¬ ".java".toList <:+ file.toList

/-- The place for the output is still vacant when the input has been found. -/
theorem vacant_routeInput (setting : Setting) (values : List (String × Value))
    (hinput : setting.store.Vacant setting.temporaryInput directory file)
    {above : Location} {name : String}
    (houtput : setting.store.Vacant setting.temporaryOutput above name)
    (hapart : above ++ [name] ≠ directory ++ [file]) :
    (routeInput setting values).store.Vacant setting.temporaryOutput above name := by
  unfold routeInput
  split
  · exact houtput
  · dsimp only
    rw [createTemporary_of_vacant hinput]
    exact houtput.set hinput hapart _

/-- What a command writes to does not touch the file for the standard input. -/
theorem Setting.Fresh.untouched (hfresh : setting.Fresh values directory file)
    (hverb : verb ∈ verbs) (hvalues : r.values = values) {out : String}
    (hout : out ∈ setting.temporaryOutput :: (textUnder? "out" values).toList) :
    Untouched file (r.arguments verb) out := by
  obtain ⟨hpath, hdirectory⟩ := hfresh.unused out hout
  refine ⟨hpath, fun package hpackage => ⟨?_, hfresh.ending⟩⟩
  change file ∉ Path.names (packageDirectory out package)
  rcases packageAt_cases hverb hpackage with rfl | rfl
  · simpa [packageDirectory] using hpath
  · rw [hvalues]
    exact hdirectory

/-- The document of a run is this text. Line ends on the standard input may have been turned
into line feeds. -/
def Setting.Holds (setting : Setting) (values : List (String × Value)) (text : String) : Prop :=
  match textUnder? "input" values with
  | some path => setting.store.readBytes path = .ok (Utf8.encode text.toList)
  | none => lineFeedsOnly setting.stdin.toList = lineFeedsOnly text.toList

/-- What a run reads in the end. -/
theorem Setting.Fresh.readText (hfresh : setting.Fresh values directory file)
    (hroot : isSet "root" values = true) (h : setting.Holds values text) :
    (routeInput setting values).store.readText (routeInput setting values).input =
      .ok (String.ofList (lineFeedsOnly text.toList)) := by
  unfold Setting.Holds at h
  cases hinput : textUnder? "input" values with
  | some path =>
    rw [hinput] at h
    rw [routeInput_of_path hinput]
    exact readText_of_readBytes h
  | none =>
    rw [hinput] at h
    rw [routeInput_of_stdin hinput hroot, readText_createTemporary hfresh.input, h]

/-- The copy of the standard input is in the way of no output. -/
theorem Setting.Fresh.writable (hfresh : setting.Fresh values directory file)
    (hpath : file ∉ Path.names path) (h : Writable setting.store path) :
    Writable (routeInput setting values).store path := by
  unfold routeInput
  split
  · exact h
  · dsimp only
    have hstore : (createTemporary setting.store setting.temporaryInput setting.stdin).erase
        (directory ++ [file]) = setting.store := by
      rw [createTemporary_of_vacant hfresh.input, hfresh.input.erase_set]
    exact writable_of_erase hpath (hstore ▸ h)

theorem mem_temporary {setting : Setting} {temporary : String}
    (h : temporary ∈ (routeInput setting values).temporary) :
    temporary = setting.temporaryInput := by
  unfold routeInput at h
  split at h
  · cases h
  · exact List.mem_singleton.mp h

end SampleSchema.CommandLine
