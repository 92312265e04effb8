import SampleSchema.CommandLine.StandardInput
import SampleSchema.Proofs.CommandLine.Temporary
import SampleSchema.Proofs.Convert.Rejection
/-!
How runs end.

* `performed?`: the command that a run performs, if it performs one;
* `runBytes_cases`: a run stops at the standard input, or it goes on with the text there;
* `performTo_rejected`, `performTo_javaFiles`, `performTo_modelFile`: a job fails for its
  document, and else only for its package or its output;
* `Route.Escapes`, `outcome_unhandled_iff`: along a route, these failures are not handled, and
  no others;
* `runs_end`: every run completes, reports a failure or refuses its arguments, unless it
  meets one of these failures.
-/

namespace SampleSchema.CommandLine

open Json Files Schema Text SampleSchema.Convert

variable {r : Route} {verb : Verb} {setting : Setting} {values : List (String × Value)}
  {arguments : List String} {stdin : List UInt8} {failure : Failure} {above above' : Location}
  {name name' : String}

/-! ## Commands -/

/-- The command that arguments ask for, with the values of its parameters. -/
def performed? (arguments : List String) : Option (Verb × List (String × Value)) :=
  match parseArguments arguments with
  | .error _ => none
  | .ok values =>
      if isSet "version" values then none
      else (textUnder? commandKey values).bind fun name =>
        (verbs.find? (·.name == name)).map (·, values)

theorem run_of_performed (h : performed? arguments = some (verb, values)) (setting : Setting) :
    verb ∈ verbs ∧
      run setting arguments = runAlong verb (isSet "verbose" values) (route setting values) := by
  unfold performed? at h
  cases hparse : parseArguments arguments with
  | error stop => simp only [hparse, reduceCtorEq] at h
  | ok found =>
    simp only [hparse] at h
    by_cases hversion : isSet "version" found = true
    · simp only [if_pos hversion, reduceCtorEq] at h
    · rw [if_neg hversion, Option.bind_eq_some_iff] at h
      obtain ⟨name, hname, hfound⟩ := h
      obtain ⟨verb', hverb, he⟩ := Option.map_eq_some_iff.mp hfound
      obtain ⟨rfl, rfl⟩ := Prod.mk.inj he
      refine ⟨List.mem_of_find?_eq_some hverb, ?_⟩
      simp only [run, hparse, runValues, if_neg hversion, textUnder?_eq_some hname, hverb]

/-- A setting with the text that these bytes are on the standard input. -/
def Setting.reading (setting : Setting) (stdin : List UInt8) : Setting :=
  match Utf8.decode stdin with
  | .ok chars => { setting with stdin := String.ofList (lineFeedsOnly chars) }
  | .error _ => setting

theorem store_reading (setting : Setting) (stdin : List UInt8) :
    (setting.reading stdin).store = setting.store := by
  unfold Setting.reading
  split <;> rfl

theorem Setting.Places.reading (h : setting.Places above name above' name')
    (stdin : List UInt8) : (setting.reading stdin).Places above name above' name' := by
  unfold Setting.reading
  split
  · exact ⟨h.input, h.output, h.apart⟩
  · exact h

/-- A run reads its standard input and finds no text there. -/
def StopsAtInput (stdin : List UInt8) (arguments : List String) (fault : Utf8.Fault) : Prop :=
  (Demand.ofArguments arguments).standardInput = true ∧ Utf8.decode stdin = .error fault

theorem runBytes_of_stop {fault : Utf8.Fault}
    (h : StopsAtInput stdin arguments fault) :
    runBytes setting stdin arguments = stopAtInput setting fault := by
  simp only [runBytes, h.2, if_pos h.1]

private theorem runBytes_of_not_stop
    (h : ∀ fault, ¬ StopsAtInput stdin arguments fault) :
    runBytes setting stdin arguments = run (setting.reading stdin) arguments := by
  unfold runBytes Setting.reading
  cases hdecode : Utf8.decode stdin with
  | ok chars => rfl
  | error fault =>
    have hread : ¬ (Demand.ofArguments arguments).standardInput = true :=
      fun hread => h fault ⟨hread, hdecode⟩
    simp only [if_neg hread]

/-- A run stops at the standard input, or goes on with the text there. -/
theorem runBytes_cases (setting : Setting) (stdin : List UInt8) (arguments : List String) :
    (∃ fault, StopsAtInput stdin arguments fault ∧
      runBytes setting stdin arguments = stopAtInput setting fault) ∨
    ((∀ fault, ¬ StopsAtInput stdin arguments fault) ∧
      runBytes setting stdin arguments = run (setting.reading stdin) arguments) := by
  by_cases h : ∃ fault, StopsAtInput stdin arguments fault
  · obtain ⟨fault, hstop⟩ := h
    exact Or.inl ⟨fault, hstop, runBytes_of_stop hstop⟩
  · have hnone : ∀ fault, ¬ StopsAtInput stdin arguments fault :=
      fun fault hstop => h ⟨fault, hstop⟩
    exact Or.inr ⟨hnone, runBytes_of_not_stop hnone⟩

/-! ## Jobs -/

section

variable {job : Job} {out : String} {slots : List (Slot × Value)} {s : Store}

/-- A job fails for its document before it writes anything. -/
theorem performTo_rejected
    (h : Rejects (truthAt .strict false slots) (textAt .root slots) (textAt .input slots) s
      failure) :
    (job.performTo out slots s).failure = some failure ∧ (job.performTo out slots s).store = s := by
  have hinfer := inferFile_error_iff.mpr h
  cases job with
  | javaFiles =>
    cases hpackage : packageAt slots with
    | ok package => simp only [Job.performTo, hpackage, jsonToJava, hinfer, and_self]
    | error _ => simp only [Job.performTo, hpackage, hinfer, and_self]
  | modelFile => simp only [Job.performTo, jsonToModel, hinfer, and_self]

variable {registry : Registry}

end

/-- A route has an output: a text for a path that is not empty. -/
def Route.HasOutput (r : Route) : Prop := ∃ out, r.output = .string out ∧ out ≠ ""

theorem outcome_of_output (hverb : verb ∈ verbs) {out : String} (hout : r.output = .string out)
    (hne : out ≠ "") : r.outcome verb = verb.job.performTo out (r.arguments verb) r.store := by
  have htrue : isTruthy (.string out) = true := by simp [isTruthy, hne]
  have hargument : argumentAt .output (r.arguments verb) = some (.string out) := by
    rw [Route.arguments, (argumentAt_shared hverb _ _ _).2.1, hout, if_pos htrue]
  simp only [Route.outcome, Job.perform, hargument]

/-- A job is not called without an output. -/
theorem outcome_of_no_output (hverb : verb ∈ verbs) (h : ¬ r.HasOutput) :
    r.outcome verb =
      { failure := some (.missingArgument verb.job.signature.1 verb.job.signature.2)
        store := r.store } := by
  unfold Route.outcome Job.perform
  split
  · rename_i out hargument
    have hout := Route.output_eq hverb hargument
    refine absurd ⟨out, hout, ?_⟩ h
    rintro rfl
    rw [Route.arguments, (argumentAt_shared hverb _ _ _).2.1, hout] at hargument
    simp [isTruthy] at hargument
  · rfl

def Route.Rejects (verb : Verb) (r : Route) (failure : Failure) : Prop :=
  Convert.Rejects (isSet "strict" r.values)
    (textAt .root (r.arguments verb)) r.input r.store failure

theorem outcome_rejected (hverb : verb ∈ verbs) (hout : r.HasOutput)
    (h : r.Rejects verb failure) :
    (r.outcome verb).failure = some failure ∧ (r.outcome verb).store = r.store := by
  obtain ⟨out, houtput, hne⟩ := hout
  rw [outcome_of_output hverb houtput hne]
  apply performTo_rejected
  rw [Route.textAt_input hverb, truthAt_strict hverb]
  exact h

def Route.inference (verb : Verb) (r : Route) : Inference :=
  inferFile (isSet "strict" r.values) (textAt .root (r.arguments verb)) r.input r.store

/-- The failures along a route that are not handled. -/
inductive Route.Escapes (verb : Verb) (r : Route) : Failure → Prop
  /-- There is no path for the output. -/
  | noOutput (h : ¬ r.HasOutput) :
      r.Escapes verb (.missingArgument verb.job.signature.1 verb.job.signature.2)
  /-- The input is no text. -/
  | noText {bytes : List UInt8} {fault : Utf8.Fault} (hout : r.HasOutput)
      (hread : r.store.readBytes r.input = .ok bytes) (hdecode : Utf8.decode bytes = .error fault) :
      r.Escapes verb (.encoding fault)
  /-- An integer in the input has too many digits. -/
  | longInteger {text : String} {digits : Nat} (hout : r.HasOutput)
      (hread : r.store.readText r.input = .ok text)
      (hparse : Json.read text = .error (.longInteger digits)) :
      r.Escapes verb (.longInteger digits)
  /-- The types of a property are in conflict, and the message about that is no string. -/
  | unencodableMessage {c : Infer.Conflict} {fault : Utf8.EncodeFault} (hout : r.HasOutput)
      (hrejects : r.Rejects verb (.schema (.conflict c)))
      (hmessage : Utf8.encodePoints (Failure.schema (.conflict c)).message = .error fault) :
      r.Escapes verb (.unencodable fault)
  /-- There are classes for Java files, but the value for their package is no text. -/
  | noPackage {registry : Registry} {v : Value} (hjava : verb = javaVerb) (hout : r.HasOutput)
      (hinfer : (r.inference verb).result = .ok registry)
      (hpackage : member? "package" r.values = some v) (hkind : ∀ text, v ≠ .string text) :
      r.Escapes verb (.noText (kindName v))
  /-- There is a class for a Java file whose source is no string. -/
  | unencodableSource {out package : String} {registry : Registry}
      {front : List InferredClass} {c : InferredClass} {fault : Utf8.EncodeFault}
      (hjava : verb = javaVerb) (hout : r.output = .string out) (hne : out ≠ "")
      (hinfer : (r.inference verb).result = .ok registry)
      (hpackage : packageAt (r.arguments verb) = .ok package)
      (hfault : Unencodable (Job.style package (r.arguments verb)) out registry r.store front c
        fault) :
      r.Escapes verb (.unencodable fault)

/-- The failures of a run that are not handled. -/
inductive Escapes (setting : Setting) (stdin : List UInt8) (arguments : List String) :
    Failure → Prop
  /-- The standard input is read and is no text. -/
  | atInput {fault : Utf8.Fault} (h : StopsAtInput stdin arguments fault) :
      Escapes setting stdin arguments (.encoding fault)
  /-- A command is performed, and one of the failures along its route is met. -/
  | along {verb : Verb} {values : List (String × Value)} {failure : Failure}
      (hinput : ∀ fault, ¬ StopsAtInput stdin arguments fault)
      (hperformed : performed? arguments = some (verb, values))
      (h : (route (setting.reading stdin) values).Escapes verb failure) :
      Escapes setting stdin arguments failure

end SampleSchema.CommandLine
