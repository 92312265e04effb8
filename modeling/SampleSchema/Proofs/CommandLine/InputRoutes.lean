import SampleSchema.Proofs.CommandLine.Routes
/-!
A document in a file and the same one on the standard input.

* `Route.Agrees`: one route has its document in a temporary file, and the other has the
  same one in a file of its own;
* `Route.Agrees.sameRun`: such routes lead to the same place;
* `runValues_sameRun`: so a document is treated alike in a file and on the standard input.
-/

namespace SampleSchema.CommandLine

open Json Files Text SampleSchema.Convert

variable {r r' : Route} {verb : Verb} {setting : Setting} {values values' : List (String × Value)}
  {directory : Location} {path file text stdin : String}

/-! ## Routes that agree -/

/-- The document of one route is in a temporary file. The other route has the same document
in another file, and is the same in all the rest. -/
structure Route.Agrees (r r' : Route) (directory : Location) (file text : String) : Prop where
  output : r'.output = r.output
  captured : r'.captured = r.captured
  values : ∀ key ≠ "input", member? key r'.values = member? key r.values
  store : r'.store.erase (directory ++ [file]) = r.store
  temporary : r'.temporary = r'.input :: r.temporary
  located : r'.store.locate r'.input = .ok (.entry directory file false)
  read : r.store.readText r.input = .ok text
  read' : r'.store.readText r'.input = .ok text

/-- Two runs end in the same way and leave the same behind. What they print is the same but
for the path of the input in the line that announces a command. -/
structure SameRun (input input' : String) (s s' : Session) : Prop where
  ending : s'.ending = s.ending
  store : s'.store = s.store
  log : s'.log = s.log
  verbose : s'.verbose = s.verbose
  stdout : s'.stdout = s.stdout ∨ ∃ verb ∈ verbs, ∃ output printed,
    s.stdout = executing verb output input ++ printed ∧
      s'.stdout = executing verb output input' ++ printed

theorem SameRun.refl (input input' : String) (s : Session) : SameRun input input' s s :=
  ⟨rfl, rfl, rfl, rfl, Or.inl rfl⟩

/-- Along routes that agree, the job has the same outcome but for the temporary file. -/
theorem Route.Agrees.outcome_eq (h : r.Agrees r' directory file text) (hverb : verb ∈ verbs)
    {root : String} (hroot : textUnder? "root" r.values = some root) (hne : root ≠ "")
    (hout : ∀ out, r.output = .string out → Untouched file (r.arguments verb) out) :
    r.outcome verb = { r'.outcome verb with
      store := (r'.outcome verb).store.erase (directory ++ [file]) } := by
  unfold Route.outcome
  rw [← h.store]
  have hread : (r'.store.erase (directory ++ [file])).readText
      (textAt .input (r.arguments verb)) = .ok text := by
    rw [Route.textAt_input hverb, h.store]
    exact h.read
  have hread' : r'.store.readText (textAt .input (r'.arguments verb)) = .ok text := by
    rw [Route.textAt_input hverb]
    exact h.read'
  refine perform_beside (fun slot hslot => ?_) ?_ (fun out harg => ?_) hread hread'
  · rw [Route.arguments, Route.arguments, h.output]
    exact argumentAt_congr hverb hslot h.values _ _ _
  · rw [Route.textAt_root hverb hroot]
    exact hne
  · exact hout out (Route.output_eq hverb harg)

/-- Routes that agree lead to the same place. -/
theorem Route.Agrees.sameRun (h : r.Agrees r' directory file text) (hverb : verb ∈ verbs)
    {root : String} (hroot : textUnder? "root" r.values = some root) (hne : root ≠ "")
    (hout : ∀ out, r.output = .string out → Untouched file (r.arguments verb) out)
    (hcaptured : r.captured = true → file ∉ Path.names (pathText r.output)) (verbose : Bool) :
    SameRun r.input r'.input (runAlong verb verbose r) (runAlong verb verbose r') := by
  have hlocated : (r'.outcome verb).store.locate r'.input = .ok (.entry directory file false) :=
    (writes_perform verb.job _ r'.store).keepsDirectories.locate h.located
  have hconclude : conclude r.captured (pathText r.output) (r.outcome verb) =
      conclude r.captured (pathText r.output) (r'.outcome verb) := by
    rw [h.outcome_eq hverb hroot hne hout]
    unfold conclude
    dsimp only
    by_cases hcapture : r.captured = true
    · rw [Store.readText_erase (hcaptured hcapture)]
    · simp only [if_neg hcapture]
  rw [runAlong_eq, runAlong_eq, h.captured, h.output, h.temporary]
  refine ⟨?_, ?_, ?_, rfl, ?_⟩
  · rw [hconclude]
  -- The file of the document is removed first. From then on the stores are the same.
  · rw [removeFiles, List.foldl_cons, Store.removeFile_of_locate hlocated,
      h.outcome_eq hverb hroot hne hout]
    rfl
  · rw [h.outcome_eq hverb hroot hne hout]
  · rw [hconclude]
    by_cases hcapture : r.captured = true
    · simp only [if_pos hcapture, true_or]
    · simp only [if_neg hcapture]
      exact Or.inr ⟨verb, hverb, _, _, rfl, rfl⟩

/-- The output keeps routes in agreement. -/
theorem Route.Agrees.routeOutput (h : r.Agrees r' directory file text) {setting' : Setting}
    (hsetting : setting'.temporaryOutput = setting.temporaryOutput)
    {above above' : Location} {name name' : String}
    (hvacant : r.store.Vacant setting.temporaryOutput above name)
    (hvacant' : r'.store.Vacant setting.temporaryOutput above' name')
    (hunused : file ∉ Path.names setting.temporaryOutput) :
    (routeOutput setting r).Agrees (routeOutput setting' r') directory file text := by
  have hout := h.values "out" (by decide)
  by_cases hnull : (member? "out" r.values).getD .null = .null
  · have hkeeps := createTemporary_keeps hvacant' ""
    rw [routeOutput_of_null setting hnull, routeOutput_of_null setting' (hout ▸ hnull), hsetting]
    exact
      { output := rfl
        captured := rfl
        values := h.values
        store := by rw [← createTemporary_erase hunused, h.store]
        temporary := congrArg (· ++ [setting.temporaryOutput]) h.temporary
        located := hkeeps.directories.locate h.located
        read := (createTemporary_keeps hvacant "").readText h.read
        read' := hkeeps.readText h.read' }
  · rw [routeOutput_of_value hnull, routeOutput_of_value (hout ▸ hnull), hout]
    exact { h with output := rfl }

/-! ## The routes of a command -/

section

variable (hfresh : setting.Fresh values directory file)
  (hinput : textUnder? "input" values = some path)
  (hread : setting.store.readBytes path = .ok (Utf8.encode text.toList))
  (hstdin : lineFeedsOnly stdin.toList = lineFeedsOnly text.toList)
  (hinput' : textUnder? "input" values' = none)
  (hvalues : ∀ key ≠ "input", member? key values' = member? key values)

include hfresh hinput hread hstdin hinput' hvalues

/-- A document in a file and the same one on the standard input. -/
theorem routeInput_agrees (hroot : isSet "root" values' = true) :
    (routeInput setting values).Agrees (routeInput { setting with stdin } values') directory file
      (String.ofList (lineFeedsOnly text.toList)) := by
  rw [routeInput_of_path hinput, routeInput_of_stdin hinput' hroot]
  exact
    { output := rfl
      captured := rfl
      values := hvalues
      store := by
        rw [createTemporary_of_vacant hfresh.input]
        exact hfresh.input.erase_set _
      temporary := rfl
      located := (createTemporary_keeps hfresh.input stdin).directories.locate hfresh.input.located
      read := readText_of_readBytes hread
      read' := by rw [readText_createTemporary hfresh.input, hstdin] }

/-- The routes of a document in a file and of the same one on the standard input. -/
theorem route_agrees (hroot : isSet "root" values' = true) :
    (route setting values).Agrees (route { setting with stdin } values') directory file
      (String.ofList (lineFeedsOnly text.toList)) := by
  obtain ⟨above, name, hvacant⟩ := hfresh.output
  have hunused := (hfresh.unused _ List.mem_cons_self).1
  have hapart : above ++ [name] ≠ directory ++ [file] :=
    Store.concat_ne (hvacant.ne_of_not_mem hunused)
  have hvacant' : (routeInput { setting with stdin } values').store.Vacant
      setting.temporaryOutput above name :=
    vacant_routeInput { setting with stdin } values' hfresh.input hvacant hapart
  exact (routeInput_agrees hfresh hinput hread hstdin hinput' hvalues hroot).routeOutput rfl
    (vacant_routeInput setting values hfresh.input hvacant hapart) hvacant' hunused

/-- Along its two routes, a command treats a document alike. -/
theorem route_sameRun {root : String} (hroot : textUnder? "root" values = some root)
    (hne : root ≠ "") (hverb : verb ∈ verbs) (verbose : Bool) :
    SameRun path setting.temporaryInput (runAlong verb verbose (route setting values))
      (runAlong verb verbose (route { setting with stdin } values')) := by
  have hset : isSet "root" values = true := isSet_of_text hroot hne
  have hset' : isSet "root" values' = true := by
    rw [isSet, hvalues "root" (by decide)]
    exact hset
  have hrouted := route_values setting hset
  obtain ⟨hcaptured, hout⟩ := route_output setting hset
  have hagrees := route_agrees hfresh hinput hread hstdin hinput' hvalues hset'
  have hfrom : (route setting values).input = path := by
    rw [route, routeOutput_input, routeInput_of_path hinput]
  have hfrom' : (route { setting with stdin } values').input = setting.temporaryInput := by
    rw [route, routeOutput_input, routeInput_of_stdin hinput' hset']
  have hsame := hagrees.sameRun hverb (hrouted.symm ▸ hroot) hne
    (fun out h => hfresh.untouched hverb hrouted (hout out h))
    (fun h => by
      rw [hcaptured h]
      exact (hfresh.unused _ List.mem_cons_self).1) verbose
  rwa [hfrom, hfrom'] at hsame

end

/-- A document is treated alike in a file and on the standard input. -/
theorem runValues_sameRun (hfresh : setting.Fresh values directory file)
    {root : String} (hroot : textUnder? "root" values = some root) (hne : root ≠ "")
    (hinput : textUnder? "input" values = some path)
    (hread : setting.store.readBytes path = .ok (Utf8.encode text.toList))
    (hstdin : lineFeedsOnly stdin.toList = lineFeedsOnly text.toList) :
    SameRun path setting.temporaryInput (runValues setting values)
      (runValues { setting with stdin } (putMember "input" .null values)) := by
  have hvalues : ∀ key ≠ "input", member? key (putMember "input" .null values) =
      member? key values := fun key hkey => member?_putMember_of_ne hkey .null values
  have hinput' : textUnder? "input" (putMember "input" .null values) = none := by
    rw [textUnder?, member?_putMember, if_pos rfl]
  unfold runValues
  rw [isSet_putMember_of_ne (by decide), isSet_putMember_of_ne (by decide),
    hvalues commandKey (by decide)]
  by_cases hversion : isSet "version" values = true
  · rw [if_pos hversion, if_pos hversion]
    exact SameRun.refl ..
  · rw [if_neg hversion, if_neg hversion]
    split
    · rename_i name _
      cases hverb : verbs.find? (·.name == name) with
      | none => exact SameRun.refl ..
      | some verb =>
        exact route_sameRun hfresh hinput hread hstdin hinput' hvalues hroot hne
          (List.mem_of_find?_eq_some hverb) _
    · exact SameRun.refl ..

end SampleSchema.CommandLine
