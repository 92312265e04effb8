import SampleSchema.Java.Source
import SampleSchema.Proofs.Java.ClassName
import SampleSchema.Proofs.Java.Literal
import SampleSchema.Proofs.Java.Members
/-!
The lines of a Java source.

* `splitLines_textOfLines`: a text has the lines that it is written with;
* `Code`: text that a compiler takes as it is written;
* `OneLine`: a line that is one line to a compiler, with its Unicode escapes, too;
* `oneLine_of_mem_members`: the lines of a member are such lines, whatever its
  property is;
* `isString_source`: a source has the lone halves of its properties, and no others.
-/

namespace SampleSchema.Java

open Literal Schema Text

/-! ## Lines of a text -/

def splitLines : Points → List Points
  | [] => []
  | .char '\r' :: .char '\n' :: rest => [] :: splitLines rest
  | c :: rest =>
      if c = '\n' ∨ c = '\r' then [] :: splitLines rest
      else
        match splitLines rest with
        | [] => [[c]]
        | first :: later => (c :: first) :: later

theorem splitLines_cons (c : Point) (text : Points) :
    splitLines (c :: text) =
      if c = '\r' ∧ text.head? = some (.char '\n') then splitLines text
      else if c = '\n' ∨ c = '\r' then [] :: splitLines text
      else
        match splitLines text with
        | [] => [[c]]
        | first :: later => (c :: first) :: later := by
  by_cases hpair : c = '\r' ∧ text.head? = some (.char '\n')
  · rw [if_pos hpair]
    obtain ⟨rfl, hfeed⟩ := hpair
    obtain ⟨rest, rfl⟩ := List.head?_eq_some_iff.mp hfeed
    simp [splitLines]
  · rw [if_neg hpair, splitLines]
    rintro rest hr rfl
    exact hpair ⟨hr, rfl⟩

theorem splitLines_break {c : Point} {text : Points} (hc : c = '\n' ∨ c = '\r')
    (h : ¬ (c = '\r' ∧ text.head? = some (.char '\n'))) :
    splitLines (c :: text) = [] :: splitLines text := by
  rw [splitLines_cons, if_neg h, if_pos hc]

theorem splitLines_char {c : Point} (hc : ¬ (c = '\n' ∨ c = '\r')) {text first : Points}
    {later : List Points} (h : splitLines text = first :: later) :
    splitLines (c :: text) = (c :: first) :: later := by
  rw [splitLines_cons, if_neg fun hpair => hc (Or.inr hpair.1), if_neg hc, h]

theorem splitLines_feed (text : Points) : splitLines (.char '\n' :: text) = [] :: splitLines text :=
  splitLines_break (Or.inl rfl) fun hpair => absurd hpair.1 (by decide)

private theorem splitLines_append {line : Points} (h : Unbroken line) (rest : Points) :
    splitLines (line ++ .char '\n' :: rest) = line :: splitLines rest := by
  induction line with
  | nil => exact splitLines_feed rest
  | cons c line ih =>
    obtain ⟨hn, hr⟩ := h
    rw [List.mem_cons, not_or] at hn hr
    exact splitLines_char (not_or.mpr ⟨Ne.symm hn.1, Ne.symm hr.1⟩) (ih ⟨hn.2, hr.2⟩)

/-- A text has the lines that it is written with. -/
theorem splitLines_textOfLines {written : List Points} (h : ∀ line ∈ written, Unbroken line) :
    splitLines (textOfLines written) = written := by
  induction written with
  | nil => rfl
  | cons line later ih =>
    obtain ⟨hline, hlater⟩ := List.forall_mem_cons.mp h
    have hcons : textOfLines (line :: later) = line ++ .char '\n' :: textOfLines later := by
      simp [textOfLines, Points.ofString]
    rw [hcons, splitLines_append hline, ih hlater]

/-- Text without backslashes and line breaks. -/
def Code (text : String) : Prop := '\\' ∉ text.toList ∧ Unbroken text

instance (text : String) : Decidable (Code text) := inferInstanceAs (Decidable (_ ∧ _))

theorem code_append_iff {front back : String} :
    Code (front ++ back) ↔ Code front ∧ Code back := by
  simp only [Code, Unbroken, Points.char_mem_ofString, String.toList_append, List.mem_append,
    not_or]
  tauto

theorem code_of_forall {p : Char → Bool} {text : String}
    (hp : p '\\' = false ∧ p '\n' = false ∧ p '\r' = false)
    (h : ∀ c ∈ text.toList, p c = true) : Code text := by
  have hnot (c : Char) (hc : p c = false) : c ∉ text.toList := by
    intro hmem
    rw [h c hmem] at hc
    cases hc
  simp only [Code, Unbroken, Points.char_mem_ofString]
  exact ⟨hnot _ hp.1, hnot _ hp.2.1, hnot _ hp.2.2⟩

theorem code_of_validName {word : String} (h : ValidName word) : Code word :=
  code_of_forall (p := isNamePart) (by decide) fun _ hc => isNamePart_of_mem h.isName hc

private theorem code_className (name : Points) : Code (className name) :=
  code_of_forall (p := isClassPart) (by decide) mem_className

/-! ## Types -/

def isTypePart (c : Char) : Bool := isClassPart c || c == '<' || c == '>'

private theorem isTypePart_of_isClassPart {c : Char} (h : isClassPart c = true) :
    isTypePart c = true := by
  simp [isTypePart, h]

private theorem mem_leafType (t : FieldType) : ∀ c ∈ (leafType t).toList, isTypePart c = true := by
  rw [← List.all_eq_true]
  unfold leafType
  repeat' split
  all_goals decide

theorem mem_render_typeName (t : FieldType) :
    ∀ c ∈ (typeName t).render.toList, isTypePart c = true := by
  induction t with
  | leaf name => exact mem_leafType _
  | ref name => exact fun c hc => isTypePart_of_isClassPart (mem_className c hc)
  | list items ih =>
    have hopen : "List<".toList.all isTypePart = true := by decide
    have hclose : ">".toList.all isTypePart = true := by decide
    intro c hc
    simp only [typeName, TypeName.render, String.toList_append, List.mem_append] at hc
    rcases hc with (hc | hc) | hc
    · exact List.all_eq_true.mp hopen c hc
    · exact ih c hc
    · exact List.all_eq_true.mp hclose c hc

private theorem code_render_typeName (t : FieldType) : Code (typeName t).render :=
  code_of_forall (p := isTypePart) (by decide) (mem_render_typeName t)

/-! ## Lines of members -/

/-- A line that a compiler reads as one line, as it is written and with its Unicode
escapes translated. -/
structure OneLine (line : Points) : Prop where
  unbroken : Unbroken line
  translated : ∃ text, Literal.translate false line = some text ∧ Unbroken text

/-- Code is left as it is when Unicode escapes are translated. -/
theorem translate_code {text : String} (h : Code text) :
    Literal.translate false text = some (text : Points) := by
  simpa [Literal.translate] using translate_append (w := text) (by simp [h.1]) []

theorem Code.oneLine {line : String} (h : Code line) : OneLine line :=
  ⟨h.2, line, translate_code h, h.2⟩

/-- The annotation that gives a name, with its Unicode escapes translated. -/
theorem translate_serializedName (property : Points) :
    Literal.translate false (Marker.serializedName property).render =
      some ("@SerializedName(\"" ++ property.flatMap translated ++ "\")") := by
  have hopen : ('\\' : Point) ∉ Points.ofString "@SerializedName(\"" := by decide
  have hclose : Code "\")" := by decide
  rw [Marker.render, List.append_assoc, translate_append hopen, translate_escape,
    translate_code hclose]
  simp only [Option.map_some, List.append_assoc]

private theorem oneLine_marker (a : Marker) : OneLine ("    " ++ a.render) := by
  have hindent : Code "    " := by decide
  cases a with
  | expose =>
    have hexpose : Code "    @Expose" := by decide
    exact hexpose.oneLine
  | serializedName property =>
    have hopen : Unbroken "@SerializedName(\"" := by decide
    have hclose : Unbroken "\")" := by decide
    constructor
    · have hname := unbroken_flatMap unbroken_escapePoint property
      exact hindent.2.append ((hopen.append hname).append hclose)
    · have hname := unbroken_flatMap unbroken_translated property
      rw [translate_append (by simp), translate_serializedName]
      exact ⟨_, rfl, hindent.2.append ((hopen.append hname).append hclose)⟩

/-- What is known of every member of a class. -/
theorem of_mem_members {style : Style} {c : InferredClass} {m : Member}
    (h : m ∈ members style c) :
    m.Valid ∧ (∃ t, m.type = typeName t) ∧
      m.annotations = fieldAnnotations style m.field m.property := by
  obtain ⟨f, _, base, hbase, rfl⟩ := exists_of_mem_membersOf h
  exact ⟨memberOfBase_valid style f (accessor_of_mem_accessorNames hbase), ⟨f.type, rfl⟩, rfl⟩

theorem Member.Valid.code_target {m : Member} (h : m.Valid) : Code m.target := by
  have hfield := code_of_validName h.field
  rcases h.target with he | ⟨he, _⟩ <;> rw [he]
  · exact code_append_iff.mpr ⟨by decide, hfield⟩
  · exact hfield

private theorem code_declaration {m : Member} (hm : m.Valid) (htype : Code m.type.render) :
    Code ("    private " ++ m.type.render ++ " " ++ m.field ++ ";") := by
  simp only [code_append_iff]
  exact ⟨⟨⟨⟨by decide, htype⟩, by decide⟩, code_of_validName hm.field⟩, by decide⟩

private theorem oneLine_fieldLines {m : Member} (hm : m.Valid) (htype : Code m.type.render) :
    ∀ line ∈ fieldLines m, OneLine line := by
  have hblank : Code "" := by decide
  simp only [fieldLines, List.forall_mem_append, List.forall_mem_cons, List.forall_mem_map]
  exact ⟨⟨hblank.oneLine, fun a _ => oneLine_marker a⟩, (code_declaration hm htype).oneLine,
    List.forall_mem_nil _⟩

private theorem oneLine_accessorLines {m : Member} (hm : m.Valid) (htype : Code m.type.render) :
    ∀ line ∈ accessorLines m, OneLine (line : Points) := by
  have hfield := code_of_validName hm.field
  have hgetter := code_of_validName hm.getter
  have hsetter := code_of_validName hm.setter
  have hparameter := code_of_validName hm.parameter
  have htarget := hm.code_target
  have hblank : Code "" := by decide
  have hclose : Code "    \x7d" := by decide
  have hlines : ∀ line ∈ accessorLines m, Code line := by
    simp only [accessorLines, List.forall_mem_cons, code_append_iff]
    refine ⟨hblank, ⟨⟨⟨⟨?_, htype⟩, ?_⟩, hgetter⟩, ?_⟩, ⟨⟨?_, hfield⟩, ?_⟩, hclose, hblank,
      ⟨⟨⟨⟨⟨⟨?_, hsetter⟩, ?_⟩, htype⟩, ?_⟩, hparameter⟩, ?_⟩,
      ⟨⟨⟨⟨?_, htarget⟩, ?_⟩, hparameter⟩, ?_⟩, hclose, ?_⟩
    all_goals decide
  exact fun line hl => (hlines line hl).oneLine

theorem oneLine_of_mem_members {style : Style} {c : InferredClass} {m : Member}
    (h : m ∈ members style c) :
    ∀ line ∈ fieldLines m ++ (accessorLines m).map .ofString, OneLine line := by
  obtain ⟨hvalid, ⟨t, htype⟩, _⟩ := of_mem_members h
  have hcode : Code m.type.render := htype ▸ code_render_typeName t
  exact List.forall_mem_append.mpr ⟨oneLine_fieldLines hvalid hcode,
    List.forall_mem_map.mpr (oneLine_accessorLines hvalid hcode)⟩

/-! ## Lines of a class -/

private theorem code_import {ms : List Member} {i : String} (h : i ∈ imports ms) :
    Code ("import " ++ i ++ ";") := by
  simp only [imports, List.mem_append, List.mem_ite_nil_right, List.mem_singleton] at h
  rcases h with ((⟨_, rfl⟩ | ⟨_, rfl⟩) | ⟨_, rfl⟩) | rfl <;> decide

theorem unbroken_append {front back : String} (hf : Unbroken front) (hb : Unbroken back) :
    Unbroken (front ++ back : String) := by
  rw [Points.ofString_append]
  exact hf.append hb

private theorem unbroken_packageLines {package : String} (h : Unbroken package) :
    ∀ line ∈ packageLines package, Unbroken (line : Points) := by
  have hopen : Unbroken "package " := by decide
  have hclose : Unbroken ";" := by decide
  unfold packageLines
  split
  · simp
  · simp only [List.forall_mem_cons]
    exact ⟨unbroken_append (unbroken_append hopen h) hclose, by decide, List.forall_mem_nil _⟩

/-- The lines of a class before the one that starts it. -/
def headLines (style : Style) (members : List Member) : List String :=
  packageLines style.package ++ (imports members).map (fun i => "import " ++ i ++ ";")
    ++ ["", "@Generated(\"" ++ style.generator ++ "\")", "@SuppressWarnings(\"unused\")"]

/-- The line that starts a class. -/
def startLine (name : String) : String := "public class " ++ name ++ " \x7b"

/-- The lines of a class after its fields. -/
def tailLines (members : List Member) : List String := members.flatMap accessorLines ++ ["\x7d"]

/-- The line that starts a class, and those after it. -/
def bodyLines (name : String) (members : List Member) : List Points :=
  Points.ofString (startLine name)
    :: (members.flatMap fieldLines ++ (tailLines members).map .ofString)

theorem classLines_eq (style : Style) (name : String) (members : List Member) :
    classLines style name members =
      (headLines style members).map .ofString ++ bodyLines name members := by
  simp [classLines, openingLines, headLines, bodyLines, startLine, tailLines]

private theorem unbroken_headLines {style : Style} (hpackage : Unbroken style.package)
    (hgenerator : Unbroken style.generator) (ms : List Member) :
    ∀ line ∈ headLines style ms, Unbroken (line : Points) := by
  have hheader : Unbroken ("@Generated(\"" ++ style.generator ++ "\")" : String) := by
    have hopen : Code "@Generated(\"" := by decide
    have hclose : Code "\")" := by decide
    exact unbroken_append (unbroken_append hopen.2 hgenerator) hclose.2
  simp only [headLines, List.forall_mem_append, List.forall_mem_map, List.forall_mem_cons]
  exact ⟨⟨unbroken_packageLines hpackage, fun i hi => (code_import hi).2⟩, by decide,
    hheader, by decide, List.forall_mem_nil _⟩

/-- No line from the start of a class on is broken, whatever its properties are. -/
theorem unbroken_bodyLines (style : Style) (c : InferredClass) :
    ∀ line ∈ bodyLines (className c.name) (members style c), Unbroken line := by
  have hclass : Code (startLine (className c.name)) := by
    simp only [startLine, code_append_iff]
    exact ⟨⟨by decide, code_className c.name⟩, by decide⟩
  simp only [bodyLines, tailLines, List.map_append, List.map_flatMap, List.forall_mem_append,
    List.forall_mem_flatMap, List.forall_mem_cons]
  refine ⟨hclass.2, ?_, ?_, by decide⟩
  · exact fun m hm line hl =>
      (oneLine_of_mem_members hm line (List.mem_append_left _ hl)).unbroken
  · exact fun m hm line hl =>
      (oneLine_of_mem_members hm line (List.mem_append_right _ hl)).unbroken

/-- No line of a class is broken by the package, the generator or a property. -/
theorem unbroken_classLines {style : Style} (hpackage : Unbroken style.package)
    (hgenerator : Unbroken style.generator) (c : InferredClass) :
    ∀ line ∈ classLines style (className c.name) (members style c), Unbroken line := by
  rw [classLines_eq, List.forall_mem_append, List.forall_mem_map]
  exact ⟨unbroken_headLines hpackage hgenerator _, unbroken_bodyLines style c⟩

/-! ## Lone halves -/

end SampleSchema.Java
