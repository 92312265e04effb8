import SampleSchema.Convert.JavaFiles
import SampleSchema.Proofs.Files.Store
import SampleSchema.Proofs.Java.Imports
/-!
The Java files of a registry.

* `writeJava_succeeds`: a file that is written holds its text, and the files of
  other names are left;
* `writeClasses_succeeds`: each file holds the source of a class, and each class has
  a file with its Java name, its own or that of an earlier one;
* `build_files_selfContained`: the files of a document use no class without a file.
-/

namespace SampleSchema.Convert

open Files Infer Java Json Schema Text

variable {style : Style} {out : String} {store store' : Store}

/-! ## One file -/

theorem append_java_injective {name name' : String} (h : name ++ ".java" = name' ++ ".java") :
    name = name' :=
  String.ext (List.append_cancel_right (by
    simpa only [String.toList_append] using congrArg String.toList h))

theorem no_slash_javaFile (name : Points) : '/' ∉ (className name ++ ".java").toList := by
  have hclass : '/' ∉ (className name).toList := fun h => absurd (mem_className _ h) (by decide)
  have hend : '/' ∉ ".java".toList := by decide
  rw [String.toList_append, List.mem_append]
  exact not_or.mpr ⟨hclass, hend⟩

theorem javaFile_ne_empty (name : Points) : className name ++ ".java" ≠ "" := by
  intro he
  simpa using congrArg String.toList he

/-- The path of a file ends in the name of its class. -/
theorem names_javaPath (out package : String) (name : Points) :
    Path.names (javaPath out package (className name)) =
      Path.names (packageDirectory out package) ++ [className name ++ ".java"] :=
  Path.names_join (no_slash_javaFile name) (javaFile_ne_empty name)

theorem getLast?_names_javaPath (out package : String) (name : Points) :
    (Path.names (javaPath out package (className name))).getLast? =
      some (className name ++ ".java") := by
  rw [names_javaPath, List.getLast?_concat]

theorem javaPath_injective {package : String} {name name' : Points}
    (h : javaPath out package (className name) = javaPath out package (className name')) :
    className name = className name' := by
  have hlast := congrArg (fun path => (Path.names path).getLast?) h
  simp only [getLast?_names_javaPath, Option.some.injEq] at hlast
  exact append_java_injective hlast

/-- A file that is written holds its text. The files of other names stay. -/
theorem writeJava_succeeds {name text : Points}
    (h : writeJava style out (className name) text store = (store', none)) :
    (∃ bytes, Utf8.encodePoints text = .ok bytes ∧
      store'.readBytes (javaPath out style.package (className name)) = .ok bytes) ∧
      ∀ other bytes, className other ≠ className name →
        store.readBytes (javaPath out style.package (className other)) = .ok bytes →
        store'.readBytes (javaPath out style.package (className other)) = .ok bytes := by
  unfold writeJava at h
  have hkeeps := Store.makeDirectories_keeps store (packageDirectory out style.package) true
  split at h
  · cases h
  · rename_i made hmade
    rw [hmade] at hkeeps
    obtain ⟨bytes, hencoded, hwritten⟩ := Store.writeText_eq_none_iff.mp h
    refine ⟨⟨bytes, hencoded, Store.readBytes_writeBytes_self hwritten⟩,
      fun other bytes hne hread => ?_⟩
    refine Store.readBytes_writeBytes_of_ne hwritten (hkeeps.readBytes hread) ?_
    rw [getLast?_names_javaPath, getLast?_names_javaPath, ne_eq, Option.some_inj]
    exact fun he => hne (append_java_injective he)

/-! ## All files -/

/-- The store holds the source of a class under its Java name. -/
def Holds (style : Style) (out : String) (store : Store) (c : InferredClass) : Prop :=
  ∃ bytes, Utf8.encodePoints (source style c) = .ok bytes ∧
    store.readBytes (javaPath out style.package (className c.name)) = .ok bytes

variable {taken : List (String × Points)} {log : Array Event} {written : List String}

theorem lookup_eq_none_iff (taken : List (String × Points)) (name : String) :
    taken.lookup name = none ↔ name ∉ taken.map (·.1) := by
  simp only [List.lookup_eq_none_iff, List.mem_map, not_exists, not_and, bne_iff_ne, ne_comm]

theorem mem_of_lookup_eq_some {name : String} {first : Points}
    (h : taken.lookup name = some first) :
    name ∈ taken.map (·.1) := by
  by_contra hnot
  rw [(lookup_eq_none_iff taken name).mpr hnot] at h
  cases h

/-- A class is passed over if its Java name is in use, and written otherwise. -/
theorem writeClasses_cons {c : InferredClass} {rest : List InferredClass}
    (h : (writeClasses style out taken (c :: rest) store log).result = .ok written) :
    (∃ first, taken.lookup (className c.name) = some first ∧
      writeClasses style out taken (c :: rest) store log =
        writeClasses style out taken rest store
          (log.push (.collided first c.name (className c.name)))) ∨
    (taken.lookup (className c.name) = none ∧ ∃ store' later,
      writeJava style out (className c.name) (source style c) store = (store', none) ∧
      (writeClasses style out ((className c.name, c.name) :: taken) rest store' log).result =
        .ok later ∧
      written = javaPath out style.package (className c.name) :: later ∧
      writeClasses style out taken (c :: rest) store log =
        { writeClasses style out ((className c.name, c.name) :: taken) rest store' log with
          result := .ok written }) := by
  simp only [writeClasses] at h ⊢
  cases hlookup : taken.lookup (className c.name) with
  | some first => exact Or.inl ⟨first, rfl, rfl⟩
  | none =>
    rw [hlookup] at h
    refine Or.inr ⟨rfl, ?_⟩
    cases hwrite : writeJava style out (className c.name) (source style c) store with
    | mk store' fault =>
      cases fault with
      | some fault => simp [hwrite] at h
      | none =>
        simp only [hwrite] at h
        cases hlater : (writeClasses style out ((className c.name, c.name) :: taken) rest store'
            log).result with
        | error failure =>
          rw [hlater] at h
          cases h
        | ok later =>
          rw [hlater] at h
          cases h
          exact ⟨store', later, rfl, hlater, rfl, by simp only [hlater, Except.map]⟩

/-- Files under names that are in use are not written again. -/
theorem writeClasses_keeps {classes : List InferredClass} {other : Points} {bytes : List UInt8}
    (h : (writeClasses style out taken classes store log).result = .ok written)
    (htaken : className other ∈ taken.map (·.1))
    (hread : store.readBytes (javaPath out style.package (className other)) = .ok bytes) :
    (writeClasses style out taken classes store log).store.readBytes
      (javaPath out style.package (className other)) = .ok bytes := by
  induction classes generalizing taken store log written with
  | nil => exact hread
  | cons c rest ih =>
    rcases writeClasses_cons h with ⟨_, _, he⟩ | ⟨hlookup, store', later, hwrite, hlater, _, he⟩
    · rw [he] at h ⊢
      exact ih h htaken hread
    · have hfree := (lookup_eq_none_iff taken _).mp hlookup
      have hne : className other ≠ className c.name := fun hc => hfree (hc ▸ htaken)
      rw [he]
      exact ih hlater (List.mem_cons_of_mem _ htaken)
        ((writeJava_succeeds hwrite).2 other _ hne hread)

/-- A class that has been written is held in the end. -/
theorem holds_of_writeJava {c : InferredClass} {rest : List InferredClass}
    (hwrite : writeJava style out (className c.name) (source style c) store = (store', none))
    (hlater : (writeClasses style out ((className c.name, c.name) :: taken) rest store'
      log).result = .ok written) :
    Holds style out
      (writeClasses style out ((className c.name, c.name) :: taken) rest store' log).store c := by
  obtain ⟨⟨bytes, hencoded, hread⟩, _⟩ := writeJava_succeeds hwrite
  refine ⟨bytes, hencoded, writeClasses_keeps hlater ?_ hread⟩
  simp only [List.map_cons, List.mem_cons, true_or]

/-- Each file holds the source of a class, and each class has a file under its Java
name, unless that is in use. -/
theorem writeClasses_succeeds {classes : List InferredClass}
    (h : (writeClasses style out taken classes store log).result = .ok written) :
    (∀ path ∈ written, ∃ c ∈ classes, path = javaPath out style.package (className c.name) ∧
      Holds style out (writeClasses style out taken classes store log).store c) ∧
    ∀ c ∈ classes, className c.name ∈ taken.map (·.1) ∨
      javaPath out style.package (className c.name) ∈ written := by
  induction classes generalizing taken store log written with
  | nil =>
    cases h
    exact ⟨List.forall_mem_nil _, List.forall_mem_nil _⟩
  | cons c rest ih =>
    rcases writeClasses_cons h with ⟨_, htaken, he⟩ | ⟨_, store', later, hwrite, hlater, rfl, he⟩
    · rw [he] at h ⊢
      obtain ⟨hfiles, hclasses⟩ := ih h
      refine ⟨fun path hp => ?_,
        List.forall_mem_cons.mpr ⟨Or.inl (mem_of_lookup_eq_some htaken), hclasses⟩⟩
      obtain ⟨c', hc', hpath⟩ := hfiles path hp
      exact ⟨c', List.mem_cons_of_mem _ hc', hpath⟩
    · obtain ⟨hfiles, hclasses⟩ := ih hlater
      simp only [List.map_cons, List.mem_cons] at hclasses
      have hholds := holds_of_writeJava hwrite hlater
      rw [he]
      constructor
      · intro path hp
        rcases List.mem_cons.mp hp with hfirst | hp
        · exact ⟨c, List.mem_cons_self, hfirst, hholds⟩
        · obtain ⟨c', hc', hpath⟩ := hfiles path hp
          exact ⟨c', List.mem_cons_of_mem _ hc', hpath⟩
      · intro c' hc'
        rcases List.mem_cons.mp hc' with rfl | hc'
        · exact Or.inr List.mem_cons_self
        · rcases hclasses c' hc' with (hsame | htaken) | hlast
          · rw [hsame]
            exact Or.inr List.mem_cons_self
          · exact Or.inl htaken
          · exact Or.inr (List.mem_cons_of_mem _ hlast)

/-! ## The files of a document -/

theorem writeRegistry_eq (style : Style) (out : String) (r : Registry) (store : Store) :
    (writeRegistry style out r store).result =
        (writeClasses style out [] r.classes store #[]).result ∧
      (writeRegistry style out r store).store =
        (writeClasses style out [] r.classes store #[]).store := by
  simp only [writeRegistry]
  split <;> exact ⟨rfl, rfl⟩

/-- A class of this Java name has a file, and the file holds its source. -/
def Declared (style : Style) (out : String) (r : Registry) (written : List String)
    (store : Store) (name : String) : Prop :=
  ∃ c ∈ r.classes, className c.name = name ∧ javaPath out style.package name ∈ written ∧
    Holds style out store c

/-- The Java files of a document are the sources of its classes. The classes that they
use have files in the same directory, also if several classes share one Java name,
and what is not in that directory and not known to Java is imported. -/
theorem build_files_selfContained (strict : Bool) (root : Points) (document : Document)
    (style : Style) (out : String) (store : Store) (written : List String)
    (hbuild : (buildSchema Naming.singular strict root document).fault = none)
    (hwritten : (writeRegistry style out (buildSchema Naming.singular strict root document).registry
      store).result = .ok written) :
    ∀ path ∈ written, ∃ c ∈ (buildSchema Naming.singular strict root document).registry.classes,
      path = javaPath out style.package (className c.name) ∧
      Holds style out (writeRegistry style out
        (buildSchema Naming.singular strict root document).registry store).store c ∧
      SelfContained style
        (Declared style out (buildSchema Naming.singular strict root document).registry written
          (writeRegistry style out
            (buildSchema Naming.singular strict root document).registry store).store) c := by
  have hwell : (buildSchema Naming.singular strict root document).registry.WellFormed root :=
    wellFormed_of_build hbuild
  generalize (buildSchema Naming.singular strict root document).registry = r at *
  obtain ⟨hresult, hstore⟩ := writeRegistry_eq style out r store
  rw [hresult] at hwritten
  obtain ⟨hfiles, hclasses⟩ := writeClasses_succeeds hwritten
  rw [hstore]
  -- a class with the Java name of `name` is the one whose source its file holds
  have hdeclared (name : Points) (hname : name ∈ r.names) :
      Declared style out r written (writeClasses style out [] r.classes store #[]).store
        (className name) := by
    obtain ⟨c, hc, rfl⟩ := List.mem_map.mp hname
    have hpath := (hclasses c hc).resolve_left List.not_mem_nil
    obtain ⟨c', hc', hsame, hholds⟩ := hfiles _ hpath
    exact ⟨c', hc', (javaPath_injective hsame).symm, hpath, hholds⟩
  intro path hp
  obtain ⟨c, hc, hpath, hholds⟩ := hfiles path hp
  refine ⟨c, hc, hpath, hholds, selfContained style fun f hf name hname => ?_⟩
  exact hdeclared name (hwell.refs_exist c hc f (List.mem_append_right _ hf) name hname)

/-- Objects under two keys that give one Java name. -/
def sharedMembers : List (Points × Document) :=
  [("a-b", .object [("x", .bool true)]),
    ("a_b", .object [("next", .array [.object [("a-b", .null)]])])]

/-- Of the two classes the first has the file that both are declared in. -/
theorem shared_files_selfContained :
    (buildSchema Naming.singular false "Root" (.object sharedMembers)).fault = none ∧
    (buildSchema Naming.singular false "Root" (.object sharedMembers)).registry.names =
      (["Root", "a-b", "a_b", "next"] : List Points) ∧
    (writeRegistry { package := "org.x" } "gen"
      (buildSchema Naming.singular false "Root" (.object sharedMembers)).registry {}).result =
        .ok ["gen/org/x/Root.java", "gen/org/x/AB.java", "gen/org/x/Next.java"] ∧
    ∃ c ∈ (buildSchema Naming.singular false "Root" (.object sharedMembers)).registry.classes,
      "gen/org/x/Root.java" = javaPath "gen" "org.x" (className c.name) ∧
      (members { package := "org.x" } c).map (·.type.innermost) = ["AB", "AB"] ∧
      Declared { package := "org.x" } "gen"
        (buildSchema Naming.singular false "Root" (.object sharedMembers)).registry
        ["gen/org/x/Root.java", "gen/org/x/AB.java", "gen/org/x/Next.java"]
        (writeRegistry { package := "org.x" } "gen"
          (buildSchema Naming.singular false "Root" (.object sharedMembers)).registry
          {}).store "AB" := by
  have hobject : buildSchema Naming.singular false "Root" (.object sharedMembers) =
      Builder.buildObject Naming.singular false "Root" sharedMembers := rfl
  have hbuild : (buildSchema Naming.singular false "Root" (.object sharedMembers)).fault =
      none := by
    rw [hobject, buildObject_eq]
    decide +kernel
  have hnames : (buildSchema Naming.singular false "Root" (.object sharedMembers)).registry.names =
      (["Root", "a-b", "a_b", "next"] : List Points) := by
    rw [hobject, buildObject_eq]
    decide +kernel
  have hwritten : (writeRegistry { package := "org.x" } "gen"
      (buildSchema Naming.singular false "Root" (.object sharedMembers)).registry {}).result =
        .ok ["gen/org/x/Root.java", "gen/org/x/AB.java", "gen/org/x/Next.java"] := by
    rw [hobject, buildObject_eq]
    decide +kernel
  obtain ⟨c, hc, hpath, _, hcontained⟩ := build_files_selfContained false "Root"
    (.object sharedMembers) { package := "org.x" } "gen" {} _ hbuild hwritten _
    (List.mem_cons_self ..)
  have hmembers : ∀ c ∈
      (buildSchema Naming.singular false "Root" (.object sharedMembers)).registry.classes,
      "gen/org/x/Root.java" = javaPath "gen" "org.x" (className c.name) →
      (members { package := "org.x" } c).map (·.type.innermost) = ["AB", "AB"] := by
    rw [hobject, buildObject_eq]
    decide +kernel
  have htypes := hmembers c hc hpath
  obtain ⟨m, hm, hab⟩ : ∃ m ∈ members { package := "org.x" } c, m.type.innermost = "AB" :=
    List.mem_map.mp (htypes ▸ List.mem_cons_self)
  refine ⟨hbuild, hnames, hwritten, c, hc, hpath, htypes, ?_⟩
  exact hab ▸ (hcontained.types m hm).resolve_left (hab ▸ by decide)

end SampleSchema.Convert
