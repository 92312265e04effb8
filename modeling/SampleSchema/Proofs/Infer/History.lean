import SampleSchema.Proofs.Infer.Tour
import SampleSchema.Proofs.Schema.Registry
/-!
What a draft holds, told from the steps that led to it.

* `observation`: the ways in which one observation can end;
* `prepared_documentTour`: on a tour every class a visit needs has been entered;
* `prepared_invariant`: what each step of such a run keeps holds after the run;
* `names_of_follow`: the classes are those entered, in the order of their first
  entry;
* `shown_of_follow`: each observed type is one that an earlier visit showed;
* `observed_of_follow`: each property that was visited has been observed;
* `exists_front`: a walk that is stopped leaves what a front part of it reached.
-/

namespace SampleSchema.Infer

open Json Schema Text

variable {singular : Points → Points}

/-! ## One step -/

/-- The ways in which the observation of a field can end. -/
inductive Observation (strict : Bool) (d : Draft) (className : Points) (f : InferredField) :
    Except Stopped Draft → Prop
  /-- The property is new to the class. -/
  | first : d.registry.observed? className f.name = none →
      Observation strict d className f (.ok (d.store className f))
  | same (old : InferredField) : d.registry.observed? className f.name = some old →
      old.type = f.type → Observation strict d className f (.ok (d.store className f))
  | changed (old : InferredField) : d.registry.observed? className f.name = some old →
      old.type ≠ f.type → (strict = true → old.type.isFallback = true) →
      Observation strict d className f
        (.ok ((d.report (.changed className f.name old.type f.type)).store className f))
  | kept (old : InferredField) : d.registry.observed? className f.name = some old →
      old.type ≠ f.type → strict = true → old.type.isFallback = false →
      f.type.isFallback = true →
      Observation strict d className f
        (.ok (d.report (.kept className f.name old.type f.type)))
  | conflict (old : InferredField) : d.registry.observed? className f.name = some old →
      old.type ≠ f.type → strict = true → old.type.isFallback = false →
      f.type.isFallback = false →
      Observation strict d className f (.error ⟨⟨className, f.name, old.type, f.type⟩, d⟩)

theorem observation (strict : Bool) (d : Draft) (className : Points) (f : InferredField) :
    Observation strict d className f (d.observe strict className f) := by
  unfold Draft.observe
  cases ho : d.registry.observed? className f.name with
  | none => exact .first ho
  | some old =>
    by_cases ht : old.type = f.type
    · simp only [ht, ↓reduceIte]
      exact .same old ho ht
    · simp only [ht, ↓reduceIte, Draft.replace]
      cases hs : strict with
      | false => exact .changed old ho ht (fun h => nomatch h)
      | true =>
        cases hf : old.type.isFallback with
        | true => exact .changed old ho ht (fun _ => hf)
        | false =>
          cases hg : f.type.isFallback with
          | true => exact .kept old ho ht rfl hf hg
          | false => exact .conflict old ho ht rfl hf hg

theorem visit_observation (singular : Points → Points) (strict : Bool) (d : Draft)
    (className property : Points) (v : Document) :
    Observation strict d className ⟨property, resolve singular d.registry.contains property v⟩
      (d.take singular strict (.visit className property v)) :=
  observation strict d className ⟨property, resolve singular d.registry.contains property v⟩

/-- A visit that succeeds stores the type it shows, or leaves the classes as
they are when the property has been observed before. -/
theorem registry_of_visit {strict : Bool} {d d' : Draft} {className property : Points}
    {v : Document} (h : d.take singular strict (.visit className property v) = .ok d') :
    d'.registry =
        d.registry.put className ⟨property, resolve singular d.registry.contains property v⟩ ∨
      d'.registry = d.registry ∧ ∃ old, d.registry.observed? className property = some old := by
  have ho := visit_observation singular strict d className property v
  rw [h] at ho
  cases ho with
  | first => exact Or.inl rfl
  | same => exact Or.inl rfl
  | changed => exact Or.inl rfl
  | kept old hold => exact Or.inr ⟨rfl, old, hold⟩

@[simp] theorem registry_enter (d : Draft) (className : Points) :
    (d.enter className).registry = d.registry.create className := by
  unfold Draft.enter
  split
  · rename_i hc
    simp [Draft.report, Registry.create, hc]
  · rfl

/-- A step that is refused changes nothing. -/
theorem draft_of_take_error {strict : Bool} {d : Draft} {s : Step} {stopped : Stopped}
    (h : d.take singular strict s = .error stopped) : stopped.draft = d := by
  cases s with
  | enter className => cases h
  | visit className property v =>
    have ho := visit_observation singular strict d className property v
    rw [h] at ho
    cases ho with
    | conflict => rfl

/-- Outside strict mode every step can be taken. -/
theorem take_lenient (singular : Points → Points) (d : Draft) (s : Step) :
    ∃ d', d.take singular false s = .ok d' := by
  cases s with
  | enter className => exact ⟨_, rfl⟩
  | visit className property v =>
    cases hd : d.take singular false (.visit className property v) with
    | ok d' => exact ⟨d', rfl⟩
    | error stopped =>
      have ho := visit_observation singular false d className property v
      rw [hd] at ho
      cases ho with
      | conflict _ _ _ hs => cases hs

theorem follow_lenient (singular : Points → Points) (steps : List Step) (d : Draft) :
    ∃ d', follow singular false steps d = .ok d' := by
  induction steps generalizing d with
  | nil => exact ⟨d, rfl⟩
  | cons s steps ih =>
    obtain ⟨d', hd⟩ := take_lenient singular d s
    simp only [follow_cons, hd]
    exact ih d'

/-! ## Many steps -/

/-- The steps already taken are carried along, since the invariant speaks of
all of them. -/
private theorem follow_invariant_from {strict : Bool} {motive : List Step → Draft → Prop}
    (hstep : ∀ done s d d', follow singular strict done {} = .ok d → motive done d →
      d.take singular strict s = .ok d' → motive (done ++ [s]) d')
    (steps : List Step) :
    ∀ {done : List Step} {d d' : Draft}, follow singular strict done {} = .ok d →
      motive done d → follow singular strict steps d = .ok d' → motive (done ++ steps) d' := by
  induction steps with
  | nil =>
    intro done d d' _ h0 h
    cases h
    simpa using h0
  | cons s steps ih =>
    intro done d d' hdone h0 h
    rw [follow_cons] at h
    cases hd : d.take singular strict s with
    | error stopped => rw [hd] at h; cases h
    | ok d₁ =>
      rw [hd] at h
      have hnext : follow singular strict (done ++ [s]) {} = .ok d₁ := by
        simp [follow_append, hdone, Except.bind, hd]
      simpa using ih hnext (hstep done s d d₁ hdone h0 hd) h

/-- What holds of the steps taken and of the draft they lead to, if it holds at
the start and each step keeps it. -/
theorem follow_invariant {strict : Bool} {motive : List Step → Draft → Prop}
    (h0 : motive [] {})
    (hstep : ∀ done s d d', follow singular strict done {} = .ok d → motive done d →
      d.take singular strict s = .ok d' → motive (done ++ [s]) d')
    {steps : List Step} {d : Draft} (h : follow singular strict steps {} = .ok d) :
    motive steps d :=
  follow_invariant_from hstep steps rfl h0 h

/-- The draft that a walk leaves, whether it was stopped or not. -/
def reached : Except Stopped Draft → Draft
  | .ok d => d
  | .error stopped => stopped.draft

/-- A walk that is stopped leaves what a front part of it reached. -/
theorem exists_front (strict : Bool) (steps : List Step) (d : Draft) :
    ∃ front, front <+: steps ∧
      follow singular strict front d = .ok (reached (follow singular strict steps d)) := by
  induction steps generalizing d with
  | nil => exact ⟨[], List.prefix_rfl, rfl⟩
  | cons s steps ih =>
    cases hd : d.take singular strict s with
    | error stopped =>
      refine ⟨[], List.nil_prefix, ?_⟩
      simp [follow_cons, hd, Except.bind, reached, draft_of_take_error hd]
    | ok d₁ =>
      obtain ⟨front, hfront, he⟩ := ih d₁
      refine ⟨s :: front, (List.prefix_cons_inj s).mpr hfront, ?_⟩
      simpa [follow_cons, hd, Except.bind] using he

/-! ## The classes -/

/-- The class whose object begins with a step. -/
def Step.entered? : Step → Option Points
  | .enter className => some className
  | .visit .. => none

/-- The classes of the objects that begin in some steps. -/
def entered (steps : List Step) : List Points := steps.filterMap Step.entered?

@[simp] theorem entered_append (front back : List Step) :
    entered (front ++ back) = entered front ++ entered back := List.filterMap_append

@[simp] theorem entered_enter (className : Points) (steps : List Step) :
    entered (.enter className :: steps) = className :: entered steps := rfl

@[simp] theorem entered_visit (className property : Points) (v : Document) (steps : List Step) :
    entered (.visit className property v :: steps) = entered steps := rfl

@[simp] theorem entered_nil : entered [] = [] := rfl

theorem mem_entered {className : Points} {steps : List Step} :
    className ∈ entered steps ↔ .enter className ∈ steps := by
  simp only [entered, List.mem_filterMap]
  constructor
  · rintro ⟨s, hs, he⟩
    cases s with
    | enter c => cases he; exact hs
    | visit => cases he
  · intro h
    exact ⟨_, h, rfl⟩

theorem eraseDups_snoc (names : List Points) (name : Points) :
    (names ++ [name]).eraseDups =
      if name ∈ names.eraseDups then names.eraseDups else names.eraseDups ++ [name] := by
  simp only [List.eraseDups_append, List.mem_eraseDups]
  by_cases h : name ∈ names <;> simp [h, List.removeAll, List.eraseDups_cons]

/-- The classes are those entered, in the order of their first entry. -/
theorem names_of_follow {strict : Bool} {steps : List Step} {d : Draft}
    (h : follow singular strict steps {} = .ok d) :
    d.registry.names = (entered steps).eraseDups := by
  refine follow_invariant (motive := fun done d => d.registry.names = (entered done).eraseDups)
    rfl ?_ h
  intro done s d d' _ ih hd
  cases s with
  | enter className =>
    cases hd
    rw [registry_enter, Registry.names_create, ih, entered_append, entered_enter, entered_nil,
      eraseDups_snoc]
  | visit className property v =>
    rw [entered_append, entered_visit, entered_nil, List.append_nil, ← ih]
    rcases registry_of_visit hd with hr | ⟨hr, _⟩
    · rw [hr, Registry.names_put]
    · rw [hr]

theorem contains_of_follow {strict : Bool} {steps : List Step} {d : Draft}
    (h : follow singular strict steps {} = .ok d) :
    d.registry.contains = (entered steps).contains := by
  funext name
  rw [Bool.eq_iff_iff, Registry.contains_iff, names_of_follow h, List.mem_eraseDups,
    List.contains_iff_mem]

/-- What holds of a new class and is kept by a field that is put holds of every
class. -/
theorem classes_of_follow {strict : Bool} {P : InferredClass → Prop}
    (hnew : ∀ name, P { name := name }) (hput : ∀ c f, P c → P (c.put f))
    {steps : List Step} {d : Draft} (h : follow singular strict steps {} = .ok d) :
    ∀ c ∈ d.registry.classes, P c := by
  refine follow_invariant (motive := fun _ d => ∀ c ∈ d.registry.classes, P c)
    (by intro c hc; cases hc) ?_ h
  intro done s d d' _ ih hd c hc
  cases s with
  | enter className =>
    cases hd
    rw [registry_enter] at hc
    rcases Registry.mem_create hc with hc | rfl
    · exact ih c hc
    · exact hnew className
  | visit className property v =>
    rcases registry_of_visit hd with hr | ⟨hr, _⟩
    · rw [hr] at hc
      rcases Registry.mem_put hc with hc | ⟨b, hb, rfl⟩
      · exact ih c hc
      · exact hput b _ (ih b hb)
    · exact ih c (hr ▸ hc)

theorem distinct_of_follow {strict : Bool} {steps : List Step} {d : Draft}
    (h : follow singular strict steps {} = .ok d) : d.registry.Distinct :=
  classes_of_follow (fun _ => List.nodup_nil) (fun _ f hc => InferredField.nodup_put f hc) h

/-- No class is finalized before the walk is over. -/
theorem fields_of_follow {strict : Bool} {steps : List Step} {d : Draft}
    (h : follow singular strict steps {} = .ok d) : ∀ c ∈ d.registry.classes, c.fields = [] :=
  classes_of_follow (fun _ => rfl) (fun _ _ hc => hc) h

/-! ## The observed fields -/

/-- The type that a value shows for a property after some steps. -/
def shown (singular : Points → Points) (before : List Step) (property : Points) (v : Document) :
    FieldType :=
  resolve singular (entered before).contains property v

/-- Each observed type is one that an earlier visit showed. -/
theorem shown_of_follow {strict : Bool} {steps : List Step} {d : Draft}
    (h : follow singular strict steps {} = .ok d) {className property : Points} {f : InferredField}
    (hf : d.registry.observed? className property = some f) :
    ∃ before v after, steps = before ++ .visit className property v :: after ∧
      f = ⟨property, shown singular before property v⟩ := by
  revert className property f
  refine follow_invariant (motive := fun done d => ∀ {className property f},
    d.registry.observed? className property = some f →
      ∃ before v after, done = before ++ .visit className property v :: after ∧
        f = ⟨property, shown singular before property v⟩) ?_ ?_ h
  · intro className property f hf
    cases hf
  · intro done s d d' hdone ih hd className property f hf
    -- a field that the step leaves alone keeps its visit
    have hold : d.registry.observed? className property = some f →
        ∃ before v after, done ++ [s] = before ++ .visit className property v :: after ∧
          f = ⟨property, shown singular before property v⟩ := by
      intro ho
      obtain ⟨before, v, after, rfl, rfl⟩ := ih ho
      exact ⟨before, v, after ++ [s], by simp, rfl⟩
    cases s with
    | enter entering =>
      cases hd
      rw [registry_enter, Registry.observed?_create] at hf
      exact hold hf
    | visit visited visitedProperty v =>
      rcases registry_of_visit hd with hr | ⟨hr, _⟩
      · rw [hr] at hf
        rcases Registry.observed?_put_cases hf with ⟨rfl, rfl, rfl⟩ | ho
        · refine ⟨done, v, [], rfl, ?_⟩
          rw [shown, contains_of_follow hdone]
        · exact hold ho
      · rw [hr] at hf
        exact hold hf

/-! ## What a visit needs -/

/-- The class of a visit, and the class of the object that its value holds,
have been entered before. -/
def Step.ReadyAfter (singular : Points → Points) (before : List Step) : Step → Prop
  | .enter _ => True
  | .visit className property v => .enter className ∈ before ∧
      ∀ inner members, nested? singular property v = some (inner, members) → .enter inner ∈ before

/-- Each step is ready after those before it. -/
def Prepared (singular : Points → Points) (before : List Step) : List Step → Prop
  | [] => True
  | s :: rest => s.ReadyAfter singular before ∧ Prepared singular (before ++ [s]) rest

theorem prepared_append (before front back : List Step) :
    Prepared singular before (front ++ back) ↔
      Prepared singular before front ∧ Prepared singular (before ++ front) back := by
  induction front generalizing before with
  | nil => simp [Prepared]
  | cons s front ih => simp [Prepared, ih, and_assoc]

private theorem prepared_tour (className : Points) (members : List (Points × Document))
    {before : List Step} (h : .enter className ∈ before) :
    Prepared singular before (tour singular className members) := by
  induction className, members using members_induction generalizing before with
  | nil className => rw [tour]; trivial
  | nested className property v rest inner members hn ihm ih =>
    rw [tour_nested hn, List.cons_append, Prepared, prepared_append, Prepared]
    refine ⟨trivial, ihm (by simp), ⟨?_, ?_⟩, ih (by simp [h])⟩
    · simp [h]
    · intro inner' members' hn'
      rw [hn] at hn'
      cases hn'
      simp
  | flat className property v rest hn ih =>
    rw [tour_flat hn, Prepared]
    refine ⟨⟨h, ?_⟩, ih (by simp [h])⟩
    intro inner members hn'
    rw [hn] at hn'
    cases hn'

/-- On a tour every class that a visit needs has been entered. -/
theorem prepared_documentTour (singular : Points → Points) (root : Points)
    (members : List (Points × Document)) :
    Prepared singular [] (documentTour singular root members) :=
  ⟨trivial, prepared_tour root members (List.mem_singleton.mpr rfl)⟩

theorem prepared_front {front steps : List Step} (hp : Prepared singular [] steps)
    (h : front <+: steps) : Prepared singular [] front := by
  obtain ⟨back, rfl⟩ := h
  exact ((prepared_append [] front back).mp hp).1

/-- What each step keeps when the classes it needs have been entered holds
after prepared steps. -/
theorem prepared_invariant {strict : Bool} {motive : List Step → Draft → Prop}
    (h0 : motive [] {})
    (hstep : ∀ done s d d', follow singular strict done {} = .ok d → Prepared singular [] done →
      s.ReadyAfter singular done → motive done d → d.take singular strict s = .ok d' →
        motive (done ++ [s]) d')
    {steps : List Step} {d : Draft} (hp : Prepared singular [] steps)
    (h : follow singular strict steps {} = .ok d) : motive steps d := by
  revert hp
  refine follow_invariant (motive := fun done d => Prepared singular [] done → motive done d)
    (fun _ => h0) ?_ h
  intro done s d d' hdone ih hd hp
  obtain ⟨hfront, hready, _⟩ := (prepared_append [] done [s]).mp hp
  exact hstep done s d d' hdone hfront hready (ih hfront) hd

/-! ## The classes and properties that are there -/

theorem mem_names_of_follow {strict : Bool} {steps : List Step} {d : Draft}
    (h : follow singular strict steps {} = .ok d) (className : Points) :
    className ∈ d.registry.names ↔ .enter className ∈ steps := by
  rw [names_of_follow h, List.mem_eraseDups, mem_entered]

theorem nodup_eraseDups {α : Type} [BEq α] [LawfulBEq α] (names : List α) :
    names.eraseDups.Nodup := by
  cases names with
  | nil => exact List.nodup_nil
  | cons name rest =>
    rw [List.eraseDups_cons, List.nodup_cons]
    exact ⟨by simp [List.mem_eraseDups], nodup_eraseDups (rest.filter fun n => !n == name)⟩
  termination_by names.length
  decreasing_by exact Nat.lt_succ_of_le (List.length_filter_le _ _)

theorem nodup_names_of_follow {strict : Bool} {steps : List Step} {d : Draft}
    (h : follow singular strict steps {} = .ok d) : d.registry.names.Nodup := by
  rw [names_of_follow h]
  exact nodup_eraseDups (entered steps)

/-- A property has been observed when, and only when, it has been visited. -/
theorem observed_of_follow {strict : Bool} {steps : List Step} {d : Draft}
    (h : follow singular strict steps {} = .ok d) (hp : Prepared singular [] steps)
    (className property : Points) :
    (∃ f, d.registry.observed? className property = some f) ↔
      ∃ v, .visit className property v ∈ steps := by
  constructor
  · rintro ⟨f, hf⟩
    obtain ⟨before, v, after, rfl, _⟩ := shown_of_follow h hf
    exact ⟨v, by simp⟩
  · revert className property hp
    refine follow_invariant
      (motive := fun done d => Prepared singular [] done → ∀ className property,
      (∃ v, .visit className property v ∈ done) →
        ∃ f, d.registry.observed? className property = some f) ?_ ?_ h
    · intro _ className property hv
      obtain ⟨v, hv⟩ := hv
      cases hv
    · intro done s d d' hdone ih hd hp className property hv
      obtain ⟨v, hv⟩ := hv
      obtain ⟨hfront, hready, _⟩ := (prepared_append [] done [s]).mp hp
      cases s with
      | enter entering =>
        cases hd
        rw [registry_enter, Registry.observed?_create]
        rcases List.mem_append.mp hv with hv | hv
        · exact ih hfront className property ⟨v, hv⟩
        · simp at hv
      | visit visited visitedProperty v' =>
        have hmem : visited ∈ d.registry.names := (mem_names_of_follow hdone visited).mpr hready.1
        -- the property was visited before, or it is the one visited now
        have hold : (∃ v, .visit className property v ∈ done) ∨
            visited = className ∧ visitedProperty = property := by
          rcases List.mem_append.mp hv with hv | hv
          · exact Or.inl ⟨v, hv⟩
          · cases List.mem_singleton.mp hv
            exact Or.inr ⟨rfl, rfl⟩
        rcases registry_of_visit hd with hr | ⟨hr, hseen⟩
        · rw [hr, Registry.observed?_put hmem]
          split
          · exact ⟨_, rfl⟩
          · rename_i hne
            rcases hold with hold | hold
            · exact ih hfront className property hold
            · exact absurd hold hne
        · rw [hr]
          rcases hold with hold | ⟨rfl, rfl⟩
          · exact ih hfront className property hold
          · exact hseen

/-! ## Builds -/

theorem buildObject_eq (strict : Bool) (root : Points) (members : List (Points × Document)) :
    Builder.buildObject singular strict root members =
      match follow singular strict (documentTour singular root members) {} with
      | .error stopped =>
          { fault := some (.conflict stopped.conflict), registry := stopped.draft.registry,
            log := stopped.draft.log, progress := [] }
      | .ok d =>
          { fault := none, registry := d.registry.finalize, log := d.log,
            progress := Progress.upTo d.registry.size } := by
  rw [Builder.buildObject, walkDocument_eq_follow]
  cases follow singular strict (documentTour singular root members) {} <;> rfl

/-- A build that succeeds finalizes what the whole tour leads to. -/
theorem buildObject_succeeds {strict : Bool} {root : Points} {members : List (Points × Document)}
    (h : (Builder.buildObject singular strict root members).fault = none) :
    ∃ d, follow singular strict (documentTour singular root members) {} = .ok d ∧
      (Builder.buildObject singular strict root members).registry = d.registry.finalize := by
  rw [buildObject_eq] at h ⊢
  cases hf : follow singular strict (documentTour singular root members) {} with
  | error stopped => rw [hf] at h; cases h
  | ok d => exact ⟨d, rfl, rfl⟩

/-- Only the walk over an object under a name can succeed. -/
theorem build_succeeds {b : Builder} {root : Points} {document : Document}
    (h : (b.build singular root document).fault = none) :
    ∃ members, document = .object members ∧
      b.build singular root document = Builder.buildObject singular b.strict root members := by
  unfold Builder.build at h ⊢
  split at h
  · cases h
  · cases document with
    | object members => exact ⟨members, rfl, by simp [*]⟩
    | _ => cases h

/-! ## A sample document -/

/-- A document with a class in several places, an array of objects, and nulls
of which only some are named like a class. -/
def sampleMembers : List (Points × Document) :=
  [("node", .null),
    ("items", .array [.object [("id", .int 1), ("node", .object [("item", .null)])], .null]),
    ("item", .object [("id", .null)]),
    ("id", .null)]

/-- The class of the root object after a build under the name `node`. -/
def sampleClass : InferredClass where
  name := "node"
  observed := [⟨"node", .ref "node"⟩, ⟨"item", .ref "item"⟩, ⟨"items", .list (.ref "item")⟩,
    ⟨"id", .anything⟩]
  fields := [⟨"id", .anything⟩, ⟨"item", .ref "item"⟩, ⟨"items", .list (.ref "item")⟩,
    ⟨"node", .ref "node"⟩]

end SampleSchema.Infer
