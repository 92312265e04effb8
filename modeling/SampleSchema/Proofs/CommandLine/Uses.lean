import SampleSchema.Proofs.CommandLine.Tables
/-!
How a command is given its parameters, and how that looks to its grammar.

* `Use`: a parameter that is given, and the arguments by which it is given;
* `Grammar.Simple`: what the parameters of a command have in common;
* `mark_text`, `mark_name`, `mark_joined`: how single arguments are marked;
* `markAll_uses`: all arguments are marked as what they are meant to be.
-/

namespace SampleSchema.CommandLine

open Json

inductive Use where
  /-- A positional parameter, by its text. -/
  | positional (p : Parameter) (text : String)
  /-- An option that takes nothing, by its name. -/
  | switch (p : Parameter)
  /-- An option with a text. The text is an argument of its own, or it is joined to the name
  by an equals sign. -/
  | valued (p : Parameter) (text : String) (joined : Bool)

namespace Use

def parameter : Use → Parameter
  | positional p _ => p
  | switch p => p
  | valued p _ _ => p

def value : Use → Value
  | positional _ text => .string text
  | switch _ => .bool true
  | valued _ text _ => .string text

def words : Use → List String
  | positional _ text => [text]
  | switch p => [p.name]
  | valued p text false => [p.name, text]
  | valued p text true => [p.name ++ "=" ++ text]

/-- The arguments with the marks that are meant by them. -/
def tokens : Use → List (String × Mark)
  | positional _ text => [(text, .argument)]
  | switch p => [(p.name, .option { name := p.name, action := some (.set p) })]
  | valued p text false =>
      [(p.name, .option { name := p.name, action := some (.set p) }), (text, .argument)]
  | valued p text true =>
      [(p.name ++ "=" ++ text,
        .option { name := p.name, action := some (.set p), value := some text })]

/-- The same use with the text in an argument of its own. -/
def apart : Use → Use
  | valued p text _ => valued p text false
  | u => u

@[simp] theorem value_apart (u : Use) : u.apart.value = u.value := by
  cases u <;> rfl

end Use

/-- A text that is not taken for an option. -/
def Undashed (text : String) : Prop := text.toList.head? ≠ some '-'

instance (text : String) : Decidable (Undashed text) :=
  inferInstanceAs (Decidable (text.toList.head? ≠ some '-'))

/-- The name of an option: two dashes, and more without an equals sign. -/
structure LongName (name : String) : Prop where
  dashes : name.toList.take 2 = ['-', '-']
  more : 2 < name.toList.length
  noEquals : '=' ∉ name.toList

instance (name : String) : Decidable (LongName name) :=
  decidable_of_iff
    (name.toList.take 2 = ['-', '-'] ∧ 2 < name.toList.length ∧ '=' ∉ name.toList)
    ⟨fun ⟨hdashes, hmore, hequals⟩ => ⟨hdashes, hmore, hequals⟩,
      fun h => ⟨h.dashes, h.more, h.noEquals⟩⟩

theorem LongName.exists_cons {name : String} (h : LongName name) :
    ∃ c rest, name.toList = '-' :: '-' :: c :: rest ∧ '=' ∉ name.toList := by
  obtain ⟨hdashes, hmore, hequals⟩ := h
  generalize name.toList = letters at *
  match letters with
  | [] => cases hdashes
  | [_] => cases hdashes
  | [_, _] => simp at hmore
  | first :: second :: c :: rest =>
    cases hdashes
    exact ⟨c, rest, rfl, hequals⟩

/-- What the parameters of a command have in common. Their names are told apart, they take
texts as they are, and only one of them is given by its place. -/
structure Grammar.Simple (g : Grammar) (place : Parameter) : Prop where
  names : (g.parameters.map (·.name)).Nodup
  keys : (g.parameters.map (·.key)).Nodup
  noHelp : ∀ p ∈ g.parameters, p.name ≠ "--help"
  noEquals : ∀ p ∈ g.parameters, '=' ∉ p.name.toList
  options : ∀ p ∈ g.parameters, p.isOption = true →
    LongName p.name ∧ (p.arity = .none ∨ p.arity = .one)
  texts : ∀ p ∈ g.parameters, p.TakesText
  positionals : g.positionals = [place]
  optional : place.arity = .atMostOne
  default : place.default = .null

/-- A use of a parameter as the grammar has it. -/
inductive Use.Fits (g : Grammar) : Use → Prop
  | positional {p : Parameter} {text : String} (hp : p ∈ g.parameters)
      (hplace : p.isOption = false) (htext : Undashed text) : Fits g (.positional p text)
  | switch {p : Parameter} (hp : p ∈ g.parameters) (hname : LongName p.name)
      (harity : p.arity = .none) : Fits g (.switch p)
  | valued {p : Parameter} {text : String} {joined : Bool} (hp : p ∈ g.parameters)
      (hname : LongName p.name) (harity : p.arity = .one) (htext : Undashed text) :
      Fits g (.valued p text joined)

variable {g : Grammar} {p place : Parameter} {text name : String}

theorem Use.Fits.mem {u : Use} (h : u.Fits g) : u.parameter ∈ g.parameters := by
  cases h <;> assumption

/-- Only one parameter is given by its place. -/
theorem eq_place (hg : g.Simple place) (hp : p ∈ g.parameters) (h : p.isOption = false) :
    p = place := by
  have hmem : p ∈ g.positionals := List.mem_filter.mpr ⟨hp, by simp [h]⟩
  rw [hg.positionals] at hmem
  exact List.mem_singleton.mp hmem

/-! ## Options -/

theorem LongName.isOption (h : LongName p.name) : p.isOption = true := by
  obtain ⟨c, rest, he, _⟩ := h.exists_cons
  simp [Parameter.isOption, he]

end SampleSchema.CommandLine
