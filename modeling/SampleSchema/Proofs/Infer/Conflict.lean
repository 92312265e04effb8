import SampleSchema.Proofs.Infer.Visits
/-!
Which documents strict mode refuses, and with which conflict.

* `Clashing`, `FirstConflict`: two visits conflict, and the earliest visit that
  conflicts with one before it;
* `not_clashing_of_follow`: a strict walk that goes through has seen no two
  visits that conflict;
* `firstConflict_of_stopped`: a strict walk that is stopped has met the first
  conflict;
* `build_conflict`: a strict build fails with the first conflict among the
  visits that the build outside strict mode makes.
-/

namespace SampleSchema.Infer

open Json Schema Text

variable {singular : Points → Points}

def Clashing (vs : List Visit) : Prop := ∃ a ∈ vs, ∃ b ∈ vs, a.Conflicts b

instance (vs : List Visit) : Decidable (Clashing vs) :=
  inferInstanceAs (Decidable (∃ a ∈ vs, ∃ b ∈ vs, a.Conflicts b))

/-- The conflict of the earliest visit that conflicts with one before it. -/
def FirstConflict (vs : List Visit) (c : Conflict) : Prop :=
  ∃ before w after, vs = before ++ w :: after ∧ ¬ Clashing before ∧
    ∃ a ∈ before, a.Conflicts w ∧ c = ⟨w.className, w.property, a.type, w.type⟩

theorem Visit.Conflicts.symm {a b : Visit} (h : a.Conflicts b) : b.Conflicts a := by
  obtain ⟨hc, hp, ht, ha, hb⟩ := h
  exact ⟨hc.symm, hp.symm, ht.symm, hb, ha⟩

theorem Visit.not_conflicts_self (a : Visit) : ¬ a.Conflicts a := fun h => h.2.2.1 rfl

/-- Among visits without a clash a property shows one type that is no fallback. -/
theorem type_eq_of_not_clashing {vs : List Visit} (h : ¬ Clashing vs) {a b : Visit}
    (ha : a ∈ vs) (hb : b ∈ vs) (hc : a.className = b.className) (hp : a.property = b.property)
    (hfa : a.type.isFallback = false) (hfb : b.type.isFallback = false) : a.type = b.type := by
  by_cases ht : a.type = b.type
  · exact ht
  · exact absurd ⟨a, ha, b, hb, hc, hp, ht, hfa, hfb⟩ h

private theorem clashing_snoc {vs : List Visit} {w : Visit} (h : Clashing (vs ++ [w])) :
    Clashing vs ∨ ∃ a ∈ vs, a.Conflicts w := by
  obtain ⟨a, ha, b, hb, hab⟩ := h
  rcases List.mem_append.mp ha with ha | ha <;> rcases List.mem_append.mp hb with hb | hb
  · exact Or.inl ⟨a, ha, b, hb, hab⟩
  · cases List.mem_singleton.mp hb
    exact Or.inr ⟨a, ha, hab⟩
  · cases List.mem_singleton.mp ha
    exact Or.inr ⟨b, hb, hab.symm⟩
  · cases List.mem_singleton.mp ha
    cases List.mem_singleton.mp hb
    exact absurd hab (Visit.not_conflicts_self w)

/-! ## The first conflict -/

theorem clashing_of_firstConflict {vs : List Visit} {c : Conflict} (h : FirstConflict vs c) :
    Clashing vs := by
  obtain ⟨before, w, after, rfl, _, a, ha, hw, _⟩ := h
  exact ⟨a, List.mem_append_left _ ha, w, by simp, hw⟩

/-- No visit before the earliest one conflicts with a visit before it. -/
private theorem not_mem_of_earliest {before rest : List Visit} {a w : Visit}
    (hclear : ¬ Clashing (before ++ rest)) (ha : a ∈ before) (hw : a.Conflicts w) : w ∉ rest :=
  fun h => hclear ⟨a, List.mem_append_left _ ha, w, List.mem_append_right _ h, hw⟩

private theorem firstConflict_unique {vs : List Visit} {c c' : Conflict} (h : FirstConflict vs c)
    (h' : FirstConflict vs c') : c = c' := by
  obtain ⟨before, w, after, rfl, hclear, a, ha, hw, rfl⟩ := h
  obtain ⟨before', w', after', he, hclear', a', ha', hw', rfl⟩ := h'
  -- neither of the two visits lies before the other
  have hsame : before = before' ∧ w = w' := by
    rcases List.append_eq_append_iff.mp he with ⟨rest, rfl, hr⟩ | ⟨rest, rfl, hr⟩
    · cases rest with
      | nil => cases hr; simp
      | cons u rest =>
        cases hr
        exact absurd (List.mem_cons_self ..) (not_mem_of_earliest hclear' ha hw)
    · cases rest with
      | nil => cases hr; simp
      | cons u rest =>
        cases hr
        exact absurd (List.mem_cons_self ..) (not_mem_of_earliest hclear ha' hw')
  obtain ⟨rfl, rfl⟩ := hsame
  obtain ⟨hc, hp, _, hfa, _⟩ := hw
  obtain ⟨hc', hp', _, hfa', _⟩ := hw'
  rw [type_eq_of_not_clashing hclear ha ha' (hc.trans hc'.symm) (hp.trans hp'.symm) hfa hfa']

/-! ## The strict walk -/

/-- In strict mode a type that is no fallback stays once it has been shown. -/
theorem settled_strict {vs : List Visit} (h : ¬ Clashing vs) {className property : Points}
    {t : FieldType} (ht : t ∈ typesOf className property vs) (hf : t.isFallback = false) :
    settled true (typesOf className property vs) = some t := by
  cases hfind : (typesOf className property vs).find? fun u => !u.isFallback with
  | none =>
    have hall := List.find?_eq_none.mp hfind t ht
    simp [hf] at hall
  | some u =>
    have hu : u.isFallback = false := by simpa using List.find?_some hfind
    obtain ⟨a, ha, hac, hap, rfl⟩ := mem_typesOf.mp (List.mem_of_find?_eq_some hfind)
    obtain ⟨b, hb, hbc, hbp, rfl⟩ := mem_typesOf.mp ht
    have he := type_eq_of_not_clashing h ha hb (hac.trans hbc.symm) (hap.trans hbp.symm) hu hf
    simp [settled, hfind, he]

/-- In strict mode a visit is refused where it meets another type and neither
of the two is a fallback. -/
theorem take_of_conflict {d : Draft} {className property : Points} {v : Document}
    {old : InferredField} (hold : d.registry.observed? className property = some old)
    (hne : old.type ≠ resolve singular d.registry.contains property v)
    (hfo : old.type.isFallback = false)
    (hfn : (resolve singular d.registry.contains property v).isFallback = false) :
    d.take singular true (.visit className property v) =
      .error ⟨⟨className, property, old.type, resolve singular d.registry.contains property v⟩,
        d⟩ := by
  simp [Draft.take, Draft.visit, Draft.observe, Draft.replace, hold, hne, hfo, hfn]

/-- Where a visit conflicts with the observed type, it conflicts with an earlier
visit that showed that type. -/
theorem exists_conflicting {strict : Bool} {steps : List Step} {d : Draft}
    (hp : Prepared singular [] steps) (h : follow singular strict steps {} = .ok d)
    {className property : Points}
    {old : InferredField} (hold : d.registry.observed? className property = some old) {v : Document}
    (hne : old.type ≠ resolve singular d.registry.contains property v)
    (hfo : old.type.isFallback = false)
    (hfn : (resolve singular d.registry.contains property v).isFallback = false) :
    ∃ a ∈ visitsAfter singular [] steps, a.type = old.type ∧
      a.Conflicts ⟨className, property, v, shown singular steps property v⟩ := by
  have hsettled := observedType_of_follow hp h className property
  rw [hold] at hsettled
  obtain ⟨a, ha, hc, hpr, hat⟩ := mem_typesOf.mp (mem_of_settled hsettled.symm)
  rw [contains_of_follow h] at hne hfn
  exact ⟨a, ha, hat, hc, hpr, hat ▸ hne, hat ▸ hfo, hfn⟩

/-- A strict walk that goes through has seen no two visits that conflict. -/
theorem not_clashing_of_follow {steps : List Step} {d : Draft} (hp : Prepared singular [] steps)
    (h : follow singular true steps {} = .ok d) : ¬ Clashing (visitsAfter singular [] steps) := by
  refine prepared_invariant
    (motive := fun done _ => ¬ Clashing (visitsAfter singular [] done)) ?_ ?_ hp h
  · rintro ⟨a, ha, _⟩
    cases ha
  · intro done s d d' hdone hfront _ ih hd
    cases s with
    | enter className =>
      rw [visitsAfter_snoc_enter]
      exact ih
    | visit className property v =>
      rw [visitsAfter_snoc_visit]
      intro hclash
      rcases clashing_snoc hclash with hclash | ⟨a, ha, hc, hpr, hne, hfa, hfb⟩
      · exact ih hclash
      -- the type of the earlier visit has stayed, and the step meets it
      have hsettled := settled_strict ih (mem_typesOf.mpr ⟨a, ha, hc, hpr, rfl⟩) hfa
      rw [← observedType_of_follow hfront hdone] at hsettled
      obtain ⟨old, hold, hot⟩ := Option.map_eq_some_iff.mp hsettled
      rw [shown, ← contains_of_follow hdone] at hne hfb
      rw [take_of_conflict hold (hot ▸ hne) (hot ▸ hfa) hfb] at hd
      cases hd

/-- A walk that is stopped is stopped at a step. -/
theorem exists_stop {strict : Bool} {steps : List Step} {d : Draft} {stopped : Stopped}
    (h : follow singular strict steps d = .error stopped) :
    ∃ front s back d', steps = front ++ s :: back ∧ follow singular strict front d = .ok d' ∧
      d'.take singular strict s = .error stopped := by
  induction steps generalizing d with
  | nil => cases h
  | cons s steps ih =>
    rw [follow_cons] at h
    cases hd : d.take singular strict s with
    | error stopped' =>
      rw [hd] at h
      cases h
      exact ⟨[], s, steps, d, rfl, rfl, hd⟩
    | ok next =>
      rw [hd] at h
      obtain ⟨front, t, back, d', rfl, hfront, ht⟩ := ih h
      refine ⟨s :: front, t, back, d', rfl, ?_, ht⟩
      simp [hd, Except.bind, hfront]

/-- A strict walk that is stopped has met the first conflict. -/
theorem firstConflict_of_stopped {steps : List Step} {stopped : Stopped}
    (hp : Prepared singular [] steps) (h : follow singular true steps {} = .error stopped) :
    FirstConflict (visitsAfter singular [] steps) stopped.conflict := by
  obtain ⟨front, s, back, d, rfl, hfront, hs⟩ := exists_stop h
  have hpf := ((prepared_append [] front (s :: back)).mp hp).1
  cases s with
  | enter className => cases hs
  | visit className property v =>
    have ho := visit_observation singular true d className property v
    rw [hs] at ho
    cases ho with
    | conflict old hold hne _ hfo hfn =>
      obtain ⟨a, ha, hat, hconflict⟩ := exists_conflicting hpf hfront hold hne hfo hfn
      refine ⟨visitsAfter singular [] front,
        ⟨className, property, v, shown singular front property v⟩,
        visitsAfter singular (front ++ [.visit className property v]) back, ?_,
        not_clashing_of_follow hpf hfront, a, ha, hconflict, ?_⟩
      · rw [visitsAfter_append, List.nil_append]
        rfl
      · rw [hat, contains_of_follow hfront]
        rfl

/-- A strict walk is stopped by the first conflict, and by nothing else. -/
theorem stopped_iff {steps : List Step} (hp : Prepared singular [] steps) (c : Conflict) :
    (∃ stopped, follow singular true steps {} = .error stopped ∧ stopped.conflict = c) ↔
      FirstConflict (visitsAfter singular [] steps) c := by
  constructor
  · rintro ⟨stopped, h, rfl⟩
    exact firstConflict_of_stopped hp h
  · intro hc
    cases h : follow singular true steps {} with
    | ok d => exact absurd (clashing_of_firstConflict hc) (not_clashing_of_follow hp h)
    | error stopped =>
      exact ⟨stopped, rfl, firstConflict_unique (firstConflict_of_stopped hp h) hc⟩

private theorem clashing_iff {steps : List Step} (hp : Prepared singular [] steps) :
    Clashing (visitsAfter singular [] steps) ↔
      ∃ c, FirstConflict (visitsAfter singular [] steps) c := by
  constructor
  · intro hclash
    cases h : follow singular true steps {} with
    | ok d => exact absurd hclash (not_clashing_of_follow hp h)
    | error stopped => exact ⟨_, firstConflict_of_stopped hp h⟩
  · rintro ⟨c, hc⟩
    exact clashing_of_firstConflict hc

/-! ## Strict builds -/

section Builds

variable (b : Builder) (root : Points) (document : Document)

theorem conflict_iff_first (c : Conflict) :
    (Builder.build singular { b with strict := true } root document).fault = some (.conflict c) ↔
      FirstConflict (buildVisits singular false root document) c := by
  by_cases hw : Walkable root document
  · obtain ⟨hroot, members, rfl⟩ := hw
    rw [build_object _ hroot, buildObject_conflict_iff, buildVisits_object false hroot,
      visits_lenient]
    exact stopped_iff (prepared_documentTour singular root members) c
  · obtain ⟨_, fault, hf, hne⟩ := build_refused { b with strict := true } hw
    rw [buildVisits_refused false hw, hf]
    simp [hne, FirstConflict]

theorem exists_conflict_iff :
    (∃ c, (Builder.build singular { b with strict := true } root document).fault =
      some (.conflict c)) ↔
      Clashing (buildVisits singular false root document) := by
  simp only [conflict_iff_first]
  by_cases hw : Walkable root document
  · obtain ⟨hroot, members, rfl⟩ := hw
    rw [buildVisits_object false hroot, visits_lenient]
    exact (clashing_iff (prepared_documentTour singular root members)).symm
  · rw [buildVisits_refused false hw]
    simp [FirstConflict, Clashing]

/-- A strict build goes through if, and only if, the document is walked and no
two of its visits conflict. -/
theorem accepted_iff :
    (Builder.build singular { b with strict := true } root document).fault = none ↔
      Walkable root document ∧ ¬ Clashing (buildVisits singular false root document) := by
  rw [← exists_conflict_iff b]
  constructor
  · intro h
    exact ⟨walkable_of_build h, by simp [h]⟩
  · rintro ⟨⟨hroot, members, rfl⟩, hclear⟩
    rw [build_object _ hroot, buildObject_eq] at hclear ⊢
    cases hf : follow singular true (documentTour singular root members) {} with
    | ok d => rfl
    | error stopped => exact absurd ⟨_, by rw [hf]⟩ hclear

/-- A strict build meets a conflict if, and only if, two of the visits that the
build outside strict mode makes conflict. The conflict it reports is that of the
earliest visit that conflicts with one before it. -/
theorem build_conflict :
    ((∃ c, (Builder.build singular { b with strict := true } root document).fault =
        some (.conflict c)) ↔ Clashing (buildVisits singular false root document)) ∧
    ∀ c, (Builder.build singular { b with strict := true } root document).fault =
      some (.conflict c) ↔
      FirstConflict (buildVisits singular false root document) c :=
  ⟨exists_conflict_iff b root document, conflict_iff_first b root document⟩

end Builds

end SampleSchema.Infer
