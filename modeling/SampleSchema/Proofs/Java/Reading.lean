import SampleSchema.Proofs.Java.Lines
/-!
A Java source can be read back.

* `jsonName?`: the name of a field in JSON, from its annotations as they are written;
* `Reading`: what a source says of its class, read from its text alone;
* `declared?_source`: the source of a class declares its Java name;
* `read_source`: the source of a class says what its name is, what its properties
  are and what their types are;
* `source_faithful`: so two classes of one source agree in these, and no property
  adds, hides or alters a line.
-/

namespace SampleSchema.Java

open Literal Schema Text

/-! ## Names in JSON -/

def after? (beginning : String) (text : Points) : Option Points :=
  (beginning : Points).isPrefixOf? text

/-- The name that a `@SerializedName` annotation gives, with the escapes of its
literal decoded. -/
def serializedName? (text : Points) : Option Points := do
  let translated ← Literal.translate false text
  let literal ← after? "@SerializedName(" translated
  let (name, rest) ← readLiteral literal
  if rest = ")" then some name else none

/-- The name of a field in JSON: the one that an annotation gives, or else its own. -/
def jsonName? (annotations : List Points) (field : Points) : Option Points :=
  match annotations.find? fun a => (after? "@SerializedName" a).isSome with
  | some a => serializedName? a
  | none => some field

theorem after?_append (beginning : String) (rest : Points) :
    after? beginning (beginning ++ rest) = some rest :=
  List.isPrefixOf?_eq_some_iff_append_eq.mpr rfl

private theorem serializedName?_render (property : Points) :
    serializedName? (Marker.serializedName property).render = some property := by
  have hliteral : "@SerializedName(\"" ++ property.flatMap translated ++ "\")" =
      "@SerializedName(" ++ (.char '"' :: (property.flatMap translated ++
        .char '"' :: (")" : Points))) := by
    simp [Points.ofString]
  have hread : readLiteral (.char '"' :: (property.flatMap translated ++
      .char '"' :: (")" : Points))) = some (property, (")" : Points)) :=
    readBody_flatMap property _
  rw [serializedName?, translate_serializedName, hliteral]
  simp only [Option.bind_eq_bind, Option.bind_some, after?_append, hread, ↓reduceIte]

theorem jsonName?_fieldAnnotations (style : Style) (field : String) (property : Points) :
    jsonName? ((fieldAnnotations style field property).map Marker.render) field =
      some property := by
  have hexpose : (after? "@SerializedName" Marker.expose.render).isSome = false := by
    decide
  have hname : (after? "@SerializedName"
      (Marker.serializedName property).render).isSome = true := by
    have hsplit : (Marker.serializedName property).render =
        "@SerializedName" ++ ("(\"" ++ Literal.escape property ++ "\")") := rfl
    rw [hsplit, after?_append]
    rfl
  unfold fieldAnnotations
  split
  · rename_i he
    simp [jsonName?, hexpose, he]
  · split <;> simp [jsonName?, hname, serializedName?_render]

/-! ## Lines -/

/-- What a line of a source says. -/
inductive Line where
  /-- A class of this name starts. -/
  | opening (name : Points)
  /-- The next field has this annotation. -/
  | marker (text : Points)
  /-- There is a field of this type and name. -/
  | field (type name : Points)
  | other
  deriving DecidableEq, Repr

namespace Line

/-- The text before a stop, and the text after it. -/
def upTo (stop : Char) (text : Points) : Points × Points :=
  (text.takeWhile (· != .char stop), (text.dropWhile (· != .char stop)).drop 1)

/-- Read a line of a source. -/
def ofText (line : Points) : Line :=
  match after? "public class " line, after? "    @" line, after? "    private " line with
  | some rest, _, _ => opening (upTo ' ' rest).1
  | none, some rest, _ => marker ("@" ++ rest)
  | none, none, some rest => field (upTo ' ' rest).1 (upTo ';' (upTo ' ' rest).2).1
  | none, none, none => other

/-- The name of the class that a line starts. -/
def opened? : Line → Option Points
  | opening name => some name
  | _ => none

theorem upTo_append {stop : Char} {text : String} (h : stop ∉ text.toList) (rest : Points) :
    upTo stop (text ++ .char stop :: rest) = ((text : Points), rest) := by
  have hne : ∀ p ∈ Points.ofString text, (p != .char stop) = true := by
    intro p hp
    rw [bne_iff_ne]
    rintro rfl
    exact h (Points.char_mem_ofString.mp hp)
  simp [upTo, List.takeWhile_append_of_pos hne, List.dropWhile_append_of_pos hne]

private theorem ofText_opening {name : String} (h : ' ' ∉ name.toList) :
    ofText (startLine name) = opening name := by
  have hline : Points.ofString (startLine name) =
      "public class " ++ (name ++ .char ' ' :: ("\x7b" : Points)) := by
    simp [startLine, Points.ofString]
  rw [ofText, hline, after?_append]
  simp only [upTo_append h]

private theorem ofText_marker (a : Marker) : ofText ("    " ++ a.render) = marker a.render := by
  obtain ⟨rest, hrest⟩ : ∃ rest : Points, a.render = "@" ++ rest := by
    cases a with
    | expose => exact ⟨"Expose", rfl⟩
    | serializedName property => exact ⟨"SerializedName(\"" ++ escape property ++ "\")", rfl⟩
  have hline : "    " ++ a.render = "    @" ++ rest := by
    rw [hrest]
    rfl
  have hopening : after? "public class " ("    @" ++ rest) = none := rfl
  rw [ofText, hline, after?_append, hopening]
  simp only [← hrest]

private theorem ofText_declaration {type name : String} (ht : ' ' ∉ type.toList)
    (hn : ';' ∉ name.toList) :
    ofText ("    private " ++ type ++ " " ++ name ++ ";" : String) = field type name := by
  have hline : Points.ofString ("    private " ++ type ++ " " ++ name ++ ";") =
      Points.ofString "    private " ++
        (Points.ofString type ++ .char ' ' :: (Points.ofString name ++ [.char ';'])) := by
    simp [Points.ofString]
  have hopening : ∀ rest, after? "public class " ("    private " ++ rest) = none :=
    fun _ => rfl
  have hmarker : ∀ rest, after? "    @" ("    private " ++ rest) = none :=
    fun _ => rfl
  rw [ofText, hline, hopening, hmarker, after?_append]
  simp only [upTo_append ht, upTo_append hn]

/-- A beginning that only lines have which say nothing. -/
def Silent (front : String) : Prop :=
  ∀ beginning ∈ ["public class ", "    @", "    private "],
    ¬ Points.ofString beginning <+: front ∧ ¬ Points.ofString front <+: beginning

instance (front : String) : Decidable (Silent front) :=
  inferInstanceAs (Decidable (∀ _ ∈ _, _))

theorem ofText_silent {front : String} (h : Silent front) (rest : String) :
    ofText (front ++ rest : String) = other := by
  have hnone : ∀ beginning ∈ ["public class ", "    @", "    private "],
      after? beginning (front ++ rest : String) = none := by
    intro beginning hb
    rw [Option.eq_none_iff_forall_ne_some, Points.ofString_append]
    intro back he
    have hback : Points.ofString beginning <+: front ++ rest :=
      ⟨back, List.isPrefixOf?_eq_some_iff_append_eq.mp he⟩
    rcases List.prefix_or_prefix_of_prefix hback (List.prefix_append ..) with hp | hp
    · exact (h beginning hb).1 hp
    · exact (h beginning hb).2 hp
  rw [ofText, hnone _ (by simp), hnone _ (by simp), hnone _ (by simp)]

end Line

/-! ## Sources -/

structure Declaration where
  /-- The name in JSON, if it can be read. -/
  jsonName : Option Points
  type : Points
  deriving DecidableEq, Repr

/-- The fields that lines declare, when some annotations wait for a field. -/
def declarations (annotations : List Points) : List Line → List Declaration
  | [] => []
  | .marker text :: rest => declarations (annotations ++ [text]) rest
  | .field type name :: rest => ⟨jsonName? annotations name, type⟩ :: declarations [] rest
  | .opening _ :: rest => declarations [] rest
  | .other :: rest => declarations [] rest

structure Reading where
  /-- The names of the classes in it. -/
  classNames : List Points
  fields : List Declaration
  deriving DecidableEq, Repr

/-- Read a source line by line. -/
def read (text : Points) : Reading :=
  let said := (splitLines text).map Line.ofText
  { classNames := said.filterMap Line.opened?
    fields := declarations [] said }

def reading (c : InferredClass) : Reading where
  classNames := [className c.name]
  fields := c.fields.map fun f => ⟨some f.name, (typeName f.type).render⟩

theorem map_ofText_fieldLines {style : Style} {c : InferredClass} {m : Member}
    (hm : m ∈ members style c) :
    (fieldLines m).map Line.ofText =
      .other :: ((m.annotations.map Marker.render).map .marker ++
        [.field m.type.render m.field]) := by
  obtain ⟨hvalid, ⟨t, htype⟩, _⟩ := of_mem_members hm
  have hblank : ' ' ∉ m.type.render.toList := by
    rw [htype]
    exact fun hc => absurd (mem_render_typeName t _ hc) (by decide)
  have hend : ';' ∉ m.field.toList :=
    fun hc => absurd (isNamePart_of_mem hvalid.field.isName hc) (by decide)
  have hmarker : Line.ofText ∘ (fun a : Marker => "    " ++ a.render) =
      Line.marker ∘ Marker.render := funext Line.ofText_marker
  simp only [fieldLines, List.map_append, List.map_cons, List.map_nil, List.map_map,
    hmarker, Line.ofText_declaration hblank hend]
  rfl

private theorem ofText_accessorLines (m : Member) :
    ∀ line ∈ accessorLines m, Line.ofText (line : Points) = .other := by
  have hblank : Line.ofText "" = .other := by decide
  have hclose : Line.ofText "    \x7d" = .other := by decide
  simp only [accessorLines, List.forall_mem_cons, String.append_assoc]
  exact ⟨hblank, Line.ofText_silent (by decide) _, Line.ofText_silent (by decide) _, hclose,
    hblank, Line.ofText_silent (by decide) _, Line.ofText_silent (by decide) _, hclose,
    List.forall_mem_nil _⟩

private theorem ofText_packageLines (package : String) :
    ∀ line ∈ packageLines package, Line.ofText (line : Points) = .other := by
  have hblank : Line.ofText "" = .other := by decide
  unfold packageLines
  split
  · simp
  · simp only [List.forall_mem_cons, String.append_assoc]
    exact ⟨Line.ofText_silent (by decide) _, hblank, List.forall_mem_nil _⟩

private theorem ofText_headLines (style : Style) (ms : List Member) :
    ∀ l ∈ ((headLines style ms).map Points.ofString).map Line.ofText, l = .other := by
  simp only [headLines, List.forall_mem_map, List.forall_mem_append, List.forall_mem_cons,
    String.append_assoc]
  exact ⟨⟨ofText_packageLines style.package, fun _ _ => Line.ofText_silent (by decide) _⟩,
    by decide, Line.ofText_silent (by decide) _, by decide, List.forall_mem_nil _⟩

/-- From its start on, besides the lines of the fields only that of the class says
anything. -/
theorem map_ofText_bodyLines (style : Style) (c : InferredClass) :
    ∃ after : List Line, (∀ l ∈ after, l = .other) ∧
      (bodyLines (className c.name) (members style c)).map Line.ofText =
        .opening (className c.name) ::
          (((members style c).flatMap fieldLines).map Line.ofText ++ after) := by
  have hname : ' ' ∉ (className c.name).toList :=
    fun hc => absurd (mem_className _ hc) (by decide)
  refine ⟨((tailLines (members style c)).map Points.ofString).map Line.ofText, ?_, ?_⟩
  · simp only [tailLines, List.forall_mem_map, List.forall_mem_append, List.forall_mem_flatMap,
      List.forall_mem_cons]
    exact ⟨fun m _ => ofText_accessorLines m, by decide, List.forall_mem_nil _⟩
  · simp only [bodyLines, List.map_append, List.map_cons, Line.ofText_opening hname]

theorem declarations_other {silent : List Line} (h : ∀ l ∈ silent, l = .other)
    (rest : List Line) : declarations [] (silent ++ rest) = declarations [] rest := by
  induction silent with
  | nil => rfl
  | cons l silent ih =>
    obtain ⟨rfl, hsilent⟩ := List.forall_mem_cons.mp h
    exact ih hsilent

private theorem declarations_markers (pending texts : List Points) (rest : List Line) :
    declarations pending (texts.map .marker ++ rest) =
      declarations (pending ++ texts) rest := by
  induction texts generalizing pending with
  | nil => simp
  | cons text texts ih => simp [declarations, ih]

private theorem declarations_fieldLines {style : Style} {c : InferredClass} {ms : List Member}
    (h : ∀ m ∈ ms, m ∈ members style c) (rest : List Line) :
    declarations [] ((ms.flatMap fieldLines).map Line.ofText ++ rest) =
      ms.map (fun m => ⟨some m.property, m.type.render⟩) ++ declarations [] rest := by
  induction ms with
  | nil => rfl
  | cons m ms ih =>
    obtain ⟨hm, hms⟩ := List.forall_mem_cons.mp h
    have hname := jsonName?_fieldAnnotations style m.field m.property
    rw [← (of_mem_members hm).2.2] at hname
    simp only [List.flatMap_cons, List.map_append, map_ofText_fieldLines hm, List.cons_append,
      List.append_assoc, List.nil_append, declarations, declarations_markers, hname, ih hms,
      List.map_cons]

private theorem opened?_fieldLines {style : Style} {c : InferredClass} :
    ∀ l ∈ ((members style c).flatMap fieldLines).map Line.ofText, l.opened? = none := by
  simp only [List.map_flatMap, List.forall_mem_flatMap]
  intro m hm
  rw [map_ofText_fieldLines hm]
  simp only [List.forall_mem_cons, List.forall_mem_append, List.forall_mem_map]
  exact ⟨rfl, fun _ _ => rfl, rfl, List.forall_mem_nil _⟩

theorem filterMap_opened?_other {silent : List Line} (h : ∀ l ∈ silent, l = .other) :
    silent.filterMap Line.opened? = [] :=
  List.filterMap_eq_nil_iff.mpr fun l hl => h l hl ▸ rfl

private theorem declarations_of_other {silent : List Line} (h : ∀ l ∈ silent, l = .other) :
    declarations [] silent = [] := by
  simpa [declarations] using declarations_other h []

theorem opened?_bodyLines (style : Style) (c : InferredClass) :
    ((bodyLines (className c.name) (members style c)).map Line.ofText).filterMap Line.opened? =
      [(className c.name : Points)] := by
  obtain ⟨after, hafter, hbody⟩ := map_ofText_bodyLines style c
  have hopened : (Line.opening (className c.name)).opened? = some (className c.name) := rfl
  rw [hbody, List.filterMap_cons_some hopened, List.filterMap_append,
    filterMap_opened?_other hafter, List.filterMap_eq_nil_iff.mpr opened?_fieldLines]
  rfl

private theorem declarations_bodyLines (style : Style) (c : InferredClass) :
    declarations [] ((bodyLines (className c.name) (members style c)).map Line.ofText) =
      c.fields.map fun f => ⟨some f.name, (typeName f.type).render⟩ := by
  obtain ⟨after, hafter, hbody⟩ := map_ofText_bodyLines style c
  rw [hbody, declarations, declarations_fieldLines fun _ hm => hm, declarations_of_other hafter,
    List.append_nil]
  exact map_membersOf (fun _ _ => rfl) inheritedNames c.fields

/-- The source of a class says what it should. -/
theorem read_source {style : Style} (hpackage : Unbroken style.package)
    (hgenerator : Unbroken style.generator) (c : InferredClass) :
    read (source style c) = reading c := by
  have hhead := ofText_headLines style (members style c)
  rw [read, source, splitLines_textOfLines (unbroken_classLines hpackage hgenerator c),
    classLines_eq, List.map_append, List.filterMap_append, filterMap_opened?_other hhead,
    opened?_bodyLines, declarations_other hhead, declarations_bodyLines]
  rfl

/-- The source of a class keeps its lines and its properties. -/
structure ReadsBack (style : Style) (c : InferredClass) : Prop where
  /-- The source has the lines that it is written with, no more and no fewer. -/
  lines_eq : splitLines (source style c) = classLines style (className c.name) (members style c)
  /-- Those of the members are lines to a compiler, too. -/
  oneLine : ∀ m ∈ members style c, ∀ line ∈ fieldLines m ++ (accessorLines m).map .ofString,
    OneLine line
  /-- There is one member for each property, in order. -/
  properties : (members style c).map (·.property) = c.fields.map (·.name)
  /-- The name of a field in JSON is the property. -/
  jsonName : ∀ m ∈ members style c,
    jsonName? (m.annotations.map Marker.render) m.field = some m.property
  /-- Read line by line, the source says no more than it should, and all of it. -/
  read_eq : read (source style c) = reading c

/-- Whatever the properties of classes are, their sources keep them: the lines of a
source are those of its members, and the names in JSON are the properties. Two
classes with the same source have the same name, properties and types. -/
theorem source_faithful (style : Style) (hpackage : Unbroken style.package)
    (hgenerator : Unbroken style.generator) :
    (∀ c, ReadsBack style c) ∧
    ∀ c c', source style c = source style c' →
      className c.name = className c'.name ∧
      c.fields.map (·.name) = c'.fields.map (·.name) ∧
      c.fields.map (fun f => (typeName f.type).render) =
        c'.fields.map fun f => (typeName f.type).render := by
  constructor
  · intro c
    refine ⟨splitLines_textOfLines (unbroken_classLines hpackage hgenerator c),
      fun m hm => oneLine_of_mem_members hm, map_membersOf (fun _ _ => rfl) _ c.fields, ?_,
      read_source hpackage hgenerator c⟩
    intro m hm
    rw [(of_mem_members hm).2.2]
    exact jsonName?_fieldAnnotations style m.field m.property
  · intro c c' he
    have hreading : reading c = reading c' := by
      rw [← read_source hpackage hgenerator c, he, read_source hpackage hgenerator c']
    have hnames := congrArg Reading.classNames hreading
    have hfields := congrArg Reading.fields hreading
    refine ⟨Points.ofString_inj.mp (List.singleton_injective hnames), ?_, ?_⟩
    · simpa [reading, Function.comp_def] using
        congrArg (List.map fun d => d.jsonName.getD []) hfields
    · simpa [reading, Function.comp_def] using
        congrArg (List.map fun d => d.type.shown) hfields

/-- Properties that would end their literals, or their lines, if they could. -/
def hostileFields : List InferredField :=
  [⟨"quote\");", .text⟩, ⟨"back\\u000a", .integer⟩, ⟨"line\r\nbreak", .list .boolean⟩,
    ⟨"\x01\x7f\t", .ref "entry"⟩, ⟨"mPlain", .decimal⟩, ⟨"Plain", .anything⟩]

/-- A class with a name that is written as that of `underscored` in Java. -/
def dashed : InferredClass := { name := "feed-entry", fields := hostileFields }

/-- The class of the other name. -/
def underscored : InferredClass := { name := "feed_entry", fields := hostileFields }

/-- A style with a package and all annotations. -/
def fullStyle : Style := { package := "org.example", alwaysExpose := true }

theorem hostile_source_faithful :
    Unbroken fullStyle.package ∧ Unbroken fullStyle.generator ∧
    source fullStyle dashed = source fullStyle underscored ∧
    className dashed.name = className underscored.name ∧
    read (source fullStyle dashed) =
      { classNames := ["FeedEntry"]
        fields := [⟨some "quote\");", "String"⟩, ⟨some "back\\u000a", "Long"⟩,
          ⟨some "line\r\nbreak", "List<Boolean>"⟩, ⟨some "\x01\x7f\t", "Entry"⟩,
          ⟨some "mPlain", "Double"⟩, ⟨some "Plain", "Object"⟩] } := by
  have hpackage : Unbroken fullStyle.package := by decide
  have hgenerator : Unbroken fullStyle.generator := by decide
  have hdashed : className dashed.name = "FeedEntry" := by decide +kernel
  have hunderscored : className underscored.name = "FeedEntry" := by decide +kernel
  have hsame : source fullStyle dashed = source fullStyle underscored := by
    have hfields : dashed.fields = underscored.fields := rfl
    rw [source, source, hdashed, hunderscored, members, members, hfields]
  have h := source_faithful fullStyle hpackage hgenerator
  refine ⟨hpackage, hgenerator, hsame, (h.2 _ _ hsame).1, ?_⟩
  rw [(h.1 dashed).read_eq, reading, hdashed]
  decide +kernel

end SampleSchema.Java
