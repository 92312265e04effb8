import SampleSchema.CommandLine.Demand
import SampleSchema.Proofs.Convert.Beside
/-!
What a job depends on.

* `argumentAt_bindArguments`: an argument of a job is what its binding gives;
* `argumentAt_congr`: only one of the arguments tells where the document is;
* `perform_beside`: from one text, a job does the same whichever file the text is in, and
  beside any file that it does not write to;
* `writes_perform`: a job makes directories and writes texts, and does nothing else;
* `perform_modelFile`: where a model can be written, only the document can be at fault.
-/

namespace SampleSchema.CommandLine

open Json Files Text SampleSchema.Convert

/-! ## Values -/

theorem member?_putMember (key other : String) (v : Value) (members : List (String × Value)) :
    member? key (putMember other v members) =
      if key = other then some v else member? key members := by
  unfold member?
  induction members with
  | nil =>
    by_cases h : key = other
    · simp [putMember, h]
    · simp [putMember, h, Ne.symm h]
  | cons m members ih =>
    obtain ⟨name, w⟩ := m
    by_cases hname : name = other
    · by_cases h : key = other
      · simp [putMember, hname, h]
      · simp [putMember, hname, h, Ne.symm h]
    · by_cases hkey : name = key
      · have h : key ≠ other := hkey ▸ hname
        simp [putMember, hkey, h]
      · simpa [putMember, hname, hkey] using ih

theorem member?_putMember_of_ne {key other : String} (h : key ≠ other) (v : Value)
    (values : List (String × Value)) :
    member? key (putMember other v values) = member? key values := by
  rw [member?_putMember, if_neg h]

theorem isSet_putMember_of_ne {key other : String} (h : key ≠ other) (v : Value)
    (values : List (String × Value)) : isSet key (putMember other v values) = isSet key values := by
  rw [isSet, isSet, member?_putMember_of_ne h]

theorem textUnder?_putMember_of_ne {key other : String} (h : key ≠ other) (v : Value)
    (values : List (String × Value)) :
    textUnder? key (putMember other v values) = textUnder? key values := by
  rw [textUnder?, textUnder?, member?_putMember_of_ne h]

theorem textUnder?_eq_some {key text : String} {values : List (String × Value)}
    (h : textUnder? key values = some text) : member? key values = some (.string text) := by
  unfold textUnder? at h
  split at h
  · rename_i found hfound
    rw [hfound, Option.some.inj h]
  · cases h

/-! ## Arguments -/

theorem bindArguments_cons (slot : Slot) (binding : Binding) (bindings : List (Slot × Binding))
    (values : List (String × Value)) (input output : Value) :
    bindArguments ((slot, binding) :: bindings) values input output =
      match binding.argument? values input output with
      | some v => (slot, v) :: bindArguments bindings values input output
      | none => bindArguments bindings values input output := by
  cases h : binding.argument? values input output <;> simp [bindArguments, h]

/-- An argument of a job is what its binding gives. -/
theorem argumentAt_bindArguments {bindings : List (Slot × Binding)}
    (hslots : (bindings.map (·.1)).Nodup) (slot : Slot) (values : List (String × Value))
    (input output : Value) :
    argumentAt slot (bindArguments bindings values input output) =
      (bindings.lookup slot).bind (·.argument? values input output) := by
  unfold argumentAt
  induction bindings with
  | nil => rfl
  | cons b bindings ih =>
    obtain ⟨other, binding⟩ := b
    obtain ⟨hother, hslots⟩ := List.nodup_cons.mp hslots
    have hrest := ih hslots
    rw [bindArguments_cons]
    by_cases h : slot = other
    · subst h
      have hnone : bindings.lookup slot = none := by
        rw [List.lookup_eq_none_iff]
        intro p hp
        refine bne_iff_ne.mpr fun he => hother ?_
        exact List.mem_map.mpr ⟨p, hp, he.symm⟩
      rw [List.lookup_cons_self, Option.bind_some]
      -- Without a value, the slot stays empty: no later binding is for it.
      cases binding.argument? values input output with
      | none => rw [hrest, hnone, Option.bind_none]
      | some v => exact List.lookup_cons_self
    · have hne : (slot == other) = false := beq_eq_false_iff_ne.mpr h
      rw [List.lookup_cons, hne]
      cases binding.argument? values input output with
      | none => exact hrest
      | some v => rw [List.lookup_cons, hne, hrest]

/-- The paths of the document and the parameter for it do not reach the other arguments. -/
theorem argument?_congr {binding : Binding} (hpath : binding ≠ .inputPath)
    (hnegated : binding ≠ .negated "input") (hvalue : binding ≠ .valueOf "input")
    {values values' : List (String × Value)}
    (h : ∀ key ≠ "input", member? key values' = member? key values) (input input' output : Value) :
    binding.argument? values' input' output = binding.argument? values input output := by
  cases binding with
  | inputPath => exact absurd rfl hpath
  | outputPath => rfl
  | negated key =>
    have hkey : key ≠ "input" := fun he => hnegated (congrArg Binding.negated he)
    rw [Binding.argument?, Binding.argument?, h key hkey]
  | valueOf key => exact h key fun he => hvalue (congrArg Binding.valueOf he)
  | fixed text => rfl

theorem nodup_slots : ∀ verb ∈ verbs, (verb.bindings.map (·.1)).Nodup := by decide

private theorem bindings_input : ∀ verb ∈ verbs, ∀ b ∈ verb.bindings, b.1 ≠ .input →
    b.2 ≠ .inputPath ∧ b.2 ≠ .negated "input" ∧ b.2 ≠ .valueOf "input" := by decide

/-- Only one of the arguments of a job tells where the document is. -/
theorem argumentAt_congr {verb : Verb} (hverb : verb ∈ verbs) {slot : Slot} (hslot : slot ≠ .input)
    {values values' : List (String × Value)}
    (h : ∀ key ≠ "input", member? key values' = member? key values) (input input' output : Value) :
    argumentAt slot (bindArguments verb.bindings values' input' output) =
      argumentAt slot (bindArguments verb.bindings values input output) := by
  rw [argumentAt_bindArguments (nodup_slots verb hverb),
    argumentAt_bindArguments (nodup_slots verb hverb)]
  cases hlookup : verb.bindings.lookup slot with
  | none => rfl
  | some binding =>
    obtain ⟨before, after, he, _⟩ := List.lookup_eq_some_iff.mp hlookup
    have hmem : (slot, binding) ∈ verb.bindings := by simp [he]
    obtain ⟨hpath, hnegated, hvalue⟩ := bindings_input verb hverb _ hmem hslot
    exact argument?_congr hpath hnegated hvalue h input input' output

/-- The arguments that every job has. -/
theorem argumentAt_shared {verb : Verb} (hverb : verb ∈ verbs) (values : List (String × Value))
    (input output : Value) :
    argumentAt .input (bindArguments verb.bindings values input output) = some input ∧
      argumentAt .output (bindArguments verb.bindings values input output) =
        (if isTruthy output then some output else none) ∧
      argumentAt .root (bindArguments verb.bindings values input output) = member? "root" values ∧
      argumentAt .strict (bindArguments verb.bindings values input output) =
        member? "strict" values := by
  have hnodup := nodup_slots verb hverb
  simp only [argumentAt_bindArguments hnodup]
  rcases List.mem_pair.mp hverb with rfl | rfl <;> exact ⟨rfl, rfl, rfl, rfl⟩

/-! ## Jobs -/

variable {job : Job} {arguments arguments' : List (Slot × Value)} {s : Store}
  {directory : Location} {file text : String}

/-- Without need for a name from the path, only the text counts. -/
theorem inferFile_eq_inferText {root path : String} (hroot : root ≠ "")
    (h : s.readText path = .ok text) (strict : Bool) :
    inferFile strict root path s = inferText strict root text := by
  have hempty : root.isEmpty = false := by simpa using hroot
  simp only [inferFile, h, rootOr, hempty, Bool.false_eq_true, ↓reduceIte]

/-- A job touches no file of this name: not its output, not what is on the way to it and
none of the Java files below it. -/
structure Untouched (file : String) (arguments : List (Slot × Value)) (out : String) : Prop where
  path : file ∉ Path.names out
  java : ∀ package, packageAt arguments = .ok package →
    NotJava (Job.style package arguments) out file

/-- From one text, a job does the same whichever file the text is in, and with another file
and without it. -/
theorem perform_beside
    (hslots : ∀ slot, slot ≠ .input → argumentAt slot arguments' = argumentAt slot arguments)
    (hroot : textAt .root arguments ≠ "")
    (hout : ∀ out, argumentAt .output arguments = some (.string out) →
      Untouched file arguments out)
    (hread : (s.erase (directory ++ [file])).readText (textAt .input arguments) = .ok text)
    (hread' : s.readText (textAt .input arguments') = .ok text) :
    job.perform arguments (s.erase (directory ++ [file])) =
      { job.perform arguments' s with
        store := (job.perform arguments' s).store.erase (directory ++ [file]) } := by
  -- All that a job is told beside its document is the same.
  have hstrict : truthAt .strict false arguments' = truthAt .strict false arguments := by
    rw [truthAt, truthAt, hslots .strict nofun]
  have hroots : textAt .root arguments' = textAt .root arguments := by
    rw [textAt, textAt, hslots .root nofun]
  have hpackage : packageAt arguments' = packageAt arguments := by
    rw [packageAt, packageAt, hslots .package nofun]
  have hstyle (package : String) : Job.style package arguments' = Job.style package arguments := by
    simp only [Job.style, truthAt, hslots .memberPrefix nofun, hslots .alwaysExpose nofun]
  simp only [Job.perform, hslots .output nofun]
  split
  · rename_i out harg
    have huntouched := hout out harg
    cases job with
    | javaFiles =>
      simp only [Job.performTo, hstrict, hroots, hstyle, hpackage, jsonToJava,
        inferFile_eq_inferText hroot hread, inferFile_eq_inferText hroot hread']
      generalize inferText (truthAt .strict false arguments) (textAt .root arguments) text =
        inference
      rcases inference with ⟨failure | r, log, progress⟩
      · cases packageAt arguments <;> rfl
      · cases hfound : packageAt arguments with
        | ok package => simp only [writeRegistry_erase (huntouched.java package hfound)]
        | error failure => rfl
    | modelFile =>
      simp only [Job.performTo, hstrict, hroots, jsonToModel,
        inferFile_eq_inferText hroot hread, inferFile_eq_inferText hroot hread']
      generalize inferText (truthAt .strict false arguments) (textAt .root arguments) text =
        inference
      rcases inference with ⟨failure | r, log, progress⟩
      · rfl
      · simp only [writeModel_erase huntouched.path]
  · rfl

private theorem writes_performTo (job : Job) (out : String) (arguments : List (Slot × Value))
    (s : Store) : s.Writes (job.performTo out arguments s).store := by
  cases job with
  | javaFiles =>
    simp only [Job.performTo, jsonToJava]
    cases packageAt arguments with
    | ok package =>
      dsimp only
      split
      · exact Store.Writes.refl s
      · exact writes_writeRegistry _ _ _ s
    | error failure => exact Store.Writes.refl s
  | modelFile =>
    simp only [Job.performTo, jsonToModel]
    split
    · exact Store.Writes.refl s
    · rename_i r _
      have hwritten := writes_writeModel r out s
      revert hwritten
      rcases writeModel r out s with ⟨written, fault⟩
      exact id

theorem writes_perform (job : Job) (arguments : List (Slot × Value)) (s : Store) :
    s.Writes (job.perform arguments s).store := by
  unfold Job.perform
  split
  · exact writes_performTo job _ arguments s
  · exact Store.Writes.refl s

/-- Where a model can be written, only the document can be at fault. -/
theorem perform_modelFile {out : String} (hroot : textAt .root arguments ≠ "")
    (hread : s.readText (textAt .input arguments) = .ok text)
    (hout : argumentAt .output arguments = some (.string out)) (hwritable : Writable s out) :
    match (inferText (truthAt .strict false arguments) (textAt .root arguments) text).result with
    | .error failure => (Job.modelFile.perform arguments s).failure = some failure
    | .ok r => (Job.modelFile.perform arguments s).failure = none ∧
        (Job.modelFile.perform arguments s).store.readBytes out =
          .ok (Utf8.encode (modelText r).toList) := by
  simp only [Job.perform, hout, Job.performTo, jsonToModel, inferFile_eq_inferText hroot hread]
  generalize inferText (truthAt .strict false arguments) (textAt .root arguments) text = inference
  rcases inference with ⟨failure | r, log, progress⟩
  · rfl
  · obtain ⟨written, hwritten⟩ := writeModel_of_writable hwritable r
    simp only [hwritten]
    exact ⟨trivial, writeModel_succeeds hwritten⟩

end SampleSchema.CommandLine
