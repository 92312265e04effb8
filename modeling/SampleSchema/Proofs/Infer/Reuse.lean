import SampleSchema.Naming.Singular
import SampleSchema.Proofs.Infer.Conflict
/-!
A builder that is used again and again.

* `Builder.afterAll`: the builder after a sequence of builds;
* `build_eq_refusal`: a build that is refused changes nothing;
* `StoppedBy`, `buildObject_stopped`: a conflict leaves the classes of the steps
  before the visit that met it, none of them finalized;
* `progress_of_buildObject`: a success reports one step for each class;
* `build_reused`: so it is after any sequence of builds, whether they succeeded
  or failed.
-/

namespace SampleSchema.Infer

open Json Schema Text

variable {singular : Points → Points}

def Builder.afterAll (singular : Points → Points) (b : Builder) (calls : List (Points × Document)) :
    Builder :=
  calls.foldl (fun b call => b.after (b.build singular call.1 call.2)) b

/-- Why a document that is not walked is refused. -/
def refusal (root : Points) (document : Document) : Fault :=
  if root.isEmpty then .emptyRootName else .notAnObject root document.kind

namespace Builder

private theorem afterAll_snoc (b : Builder) (calls : List (Points × Document)) (root : Points)
    (document : Document) :
    b.afterAll singular (calls ++ [(root, document)]) =
      (b.afterAll singular calls).after
        ((b.afterAll singular calls).build singular root document) := by
  simp [afterAll]

/-- A builder stays in its mode. -/
theorem strict_afterAll (b : Builder) (calls : List (Points × Document)) :
    (b.afterAll singular calls).strict = b.strict := by
  induction calls generalizing b with
  | nil => rfl
  | cons call calls ih => exact ih (b.after (b.build singular call.1 call.2))

end Builder

/-- A build that is refused reports why, and nothing else. -/
theorem build_eq_refusal (singular : Points → Points) (b : Builder) {root : Points}
    {document : Document} (h : ¬ Walkable root document) :
    b.build singular root document =
      { fault := some (refusal root document), registry := b.registry, log := #[],
        progress := [] } := by
  unfold Builder.build refusal
  split
  · rfl
  · rename_i hroot
    cases document with
    | object members => exact absurd ⟨by simpa using hroot, members, rfl⟩ h
    | _ => rfl

/-! ## How a walk ends -/

/-- A walk that a conflict stops ends just before the visit that meets it. The
property has one of the two types by then, and the visit shows the other. -/
theorem exists_visit_of_stopped {strict : Bool} {steps : List Step} {stopped : Stopped}
    (h : follow singular strict steps {} = .error stopped) :
    ∃ front v back,
      steps = front ++ .visit stopped.conflict.className stopped.conflict.property v :: back ∧
      follow singular strict front {} = .ok stopped.draft ∧
      (stopped.draft.registry.observed? stopped.conflict.className
        stopped.conflict.property).map (·.type) = some stopped.conflict.existing ∧
      shown singular front stopped.conflict.property v = stopped.conflict.new := by
  obtain ⟨front, s, back, d, rfl, hfront, hs⟩ := exists_stop h
  cases s with
  | enter className => cases hs
  | visit className property v =>
    have ho := visit_observation singular strict d className property v
    rw [hs] at ho
    cases ho with
    | conflict old hold =>
      refine ⟨front, v, back, rfl, hfront, ?_, ?_⟩
      · rw [hold]
        rfl
      · rw [shown, ← contains_of_follow hfront]

/-- What the build of an object reports when a conflict has stopped it. -/
structure StoppedBy (singular : Points → Points) (strict : Bool) (root : Points)
    (members : List (Points × Document)) (c : Conflict) (r : Report) : Prop where
  no_progress : r.progress = []
  unfinalized : ∀ k ∈ r.registry.classes, k.fields = []
  /-- The steps before the visit that meets the conflict have led to the classes
  and to the log. The property has the existing type, and the visit shows the new
  one. -/
  before : ∃ front v back,
    documentTour singular root members = front ++ .visit c.className c.property v :: back ∧
    follow singular strict front {} = .ok ⟨r.registry, r.log⟩ ∧
    (r.registry.observed? c.className c.property).map (·.type) = some c.existing ∧
    shown singular front c.property v = c.new

theorem buildObject_stopped {strict : Bool} {root : Points} {members : List (Points × Document)}
    {c : Conflict}
    (h : (Builder.buildObject singular strict root members).fault = some (.conflict c)) :
    StoppedBy singular strict root members c
      (Builder.buildObject singular strict root members) := by
  obtain ⟨stopped, hf, rfl⟩ := (buildObject_conflict_iff strict root members c).mp h
  obtain ⟨front, v, back, htour, hfront, hold, hnew⟩ := exists_visit_of_stopped hf
  rw [buildObject_eq, hf]
  exact ⟨rfl, fields_of_follow hfront, front, v, back, htour, hfront, hold, hnew⟩

/-- A build that succeeds reports one step of progress for each class. -/
theorem progress_of_buildObject {strict : Bool} {root : Points}
    {members : List (Points × Document)}
    (h : (Builder.buildObject singular strict root members).fault = none) :
    (Builder.buildObject singular strict root members).progress =
      Progress.upTo (Builder.buildObject singular strict root members).registry.size := by
  rw [buildObject_eq] at h ⊢
  cases hf : follow singular strict (documentTour singular root members) {} with
  | error stopped => rw [hf] at h; cases h
  | ok d => simp [Registry.size, Registry.finalize]

private theorem length_upTo (n : Nat) : (Progress.upTo n).length = n := by simp [Progress.upTo]

private theorem getElem?_upTo {n i : Nat} (h : i < n) :
    (Progress.upTo n)[i]? = some ⟨i + 1, n⟩ := by
  simp [Progress.upTo, h]

/-! ## Any sequence of builds -/

/-- After any builds, a build that is refused leaves the builder as it was and
reports nothing but the fault, and every other build gives the report of a new
builder in the same mode. A conflict leaves the classes of the steps before the
visit that met it, none of them finalized. A success reports the fractions from
one class out of all to all of them. -/
theorem build_reused (singular : Points → Points) (b : Builder)
    (calls : List (Points × Document)) (root : Points) (document : Document) :
    (¬ Walkable root document →
      (b.afterAll singular calls).build singular root document =
        { fault := some (refusal root document), registry := (b.afterAll singular calls).registry,
          log := #[], progress := [] } ∧
      b.afterAll singular (calls ++ [(root, document)]) = b.afterAll singular calls) ∧
    ∀ members, root ≠ "" → document = .object members →
      ∃ report, (b.afterAll singular calls).build singular root document = report ∧
        Builder.build singular { strict := b.strict } root document = report ∧
        (b.afterAll singular (calls ++ [(root, document)])).registry = report.registry ∧
        (∀ c, report.fault = some (.conflict c) →
          StoppedBy singular b.strict root members c report) ∧
        (report.fault = none →
          report.progress.length = report.registry.size ∧
          ∀ i < report.registry.size,
            report.progress[i]? = some ⟨i + 1, report.registry.size⟩) := by
  constructor
  · intro h
    have hb := build_eq_refusal singular (b.afterAll singular calls) h
    refine ⟨hb, ?_⟩
    rw [Builder.afterAll_snoc, hb]
    rfl
  · rintro members hroot rfl
    have hb : (b.afterAll singular calls).build singular root (.object members) =
        Builder.buildObject singular b.strict root members := by
      rw [build_object _ hroot, Builder.strict_afterAll]
    refine ⟨Builder.buildObject singular b.strict root members, hb,
      build_object _ hroot members, ?_, fun c => buildObject_stopped, ?_⟩
    · rw [Builder.afterAll_snoc, hb]
      rfl
    · intro h
      rw [progress_of_buildObject h]
      exact ⟨length_upTo _, fun i hi => getElem?_upTo hi⟩

/-- A document with two objects of one class that disagree. -/
def disagreeing : List (Points × Document) :=
  [("a", .object [("x", .int 1)]), ("b", .object [("a", .object [("x", .bool true)])])]

/-- A success and a refusal do not change what the conflict leaves behind, and the
conflict does not change what a refusal after it leaves. -/
theorem disagreeing_build_reused :
    ((({ strict := true } : Builder).afterAll Naming.singular
      [("Root", .object sampleMembers), ("", .null)]).build Naming.singular "Root"
        (.object disagreeing)).fault = some (.conflict ⟨"a", "x", .integer, .boolean⟩) ∧
    StoppedBy Naming.singular true "Root" disagreeing ⟨"a", "x", .integer, .boolean⟩
      ((({ strict := true } : Builder).afterAll Naming.singular
        [("Root", .object sampleMembers), ("", .null)]).build Naming.singular "Root"
          (.object disagreeing)) ∧
    ¬ Walkable "Root" .null ∧
    (({ strict := true } : Builder).afterAll Naming.singular
      [("Root", .object disagreeing), ("Root", .null)]).registry.names =
        (["Root", "a", "b"] : List Points) := by
  obtain ⟨report, hr, hfresh, _, hstopped, _⟩ :=
    (build_reused Naming.singular { strict := true } [("Root", .object sampleMembers), ("", .null)]
      "Root" (.object disagreeing)).2 disagreeing (by decide) rfl
  have hobject : Builder.build Naming.singular { strict := true } "Root" (.object disagreeing) =
      Builder.buildObject Naming.singular true "Root" disagreeing := rfl
  have hfault : report.fault = some (.conflict ⟨"a", "x", .integer, .boolean⟩) := by
    rw [← hfresh, hobject, buildObject_eq]
    decide +kernel
  have hnull : ¬ Walkable "Root" .null := by
    rintro ⟨_, members, hm⟩
    cases hm
  have hkept : ({ strict := true } : Builder).afterAll Naming.singular
      [("Root", .object disagreeing), ("Root", .null)] =
      Builder.afterAll Naming.singular { strict := true } [("Root", .object disagreeing)] :=
    ((build_reused Naming.singular _ [("Root", .object disagreeing)] "Root" .null).1 hnull).2
  rw [hr]
  refine ⟨hfault, hstopped _ hfault, hnull, ?_⟩
  rw [hkept, Builder.afterAll, List.foldl_cons, List.foldl_nil, Builder.after, hobject,
    buildObject_eq]
  decide +kernel

end SampleSchema.Infer
