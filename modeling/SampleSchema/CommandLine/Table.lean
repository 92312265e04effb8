import SampleSchema.CommandLine.Commands
/-!
Commands described in JSON: each has a name, a description and a list of
parameters, and each parameter has a name, a type, a help text and, if need be,
a number of arguments, choices, a default and whether it has to be given.
-/

namespace SampleSchema.CommandLine.Table

open Json

/-- Something that a table needs and that is not there: an entry, or the type of
this name. -/
structure Missing where
  key : String
  deriving DecidableEq, Repr

def entry (key : String) (v : Value) : Except Missing Value :=
  match v with
  | .object members =>
      match member? key members with
      | some v => .ok v
      | none => .error ⟨key⟩
  | _ => .error ⟨key⟩

def text : Value → String
  | .string s => s
  | _ => ""

def items : Value → List Value
  | .array vs => vs
  | _ => []

/-- The number of arguments that a table writes as a sign or a number. -/
def arity : Option Value → Arity
  | some (.string "?") => .atMostOne
  | some (.string "*") => .any
  | some (.string "+") => .atLeastOne
  | some (.int n) => .exactly n.toNat
  | _ => .one

/-- The type of this name. A truth value makes the parameter a switch. -/
def valueType (name : String) : Except Missing (Option ValueType) :=
  if name = "bool" then .ok none
  else if name = "str" then .ok (some .text)
  else if name = "int" then .ok (some .integer)
  else if name = "float" then .ok (some .decimal)
  else .error ⟨name⟩

/-- A parameter of a given type. An option has to be given unless the table says
otherwise, a positional parameter if it takes at least one argument. -/
def makeParameter (members : List (String × Value)) (name help : String)
    (type : Option ValueType) : Parameter :=
  let given := arity (member? "nargs" members)
  let p : Parameter :=
    { name, help
      arity := if type.isNone then .none else given
      type := type.getD .text
      choices := (member? "choices" members).map items
      default := (member? "default" members).getD (if type.isNone then .bool false else .null) }
  let required :=
    if p.isOption then
      match member? "required" members with
      | some (.bool b) => b
      | _ => true
    else
      match given with
      | .atMostOne => false
      | .any => (member? "default" members).isNone
      | _ => true
  { p with required }

def parameter (v : Value) : Except Missing Parameter := do
  let help ← entry "help" v
  let type ← valueType (text (← entry "type" v))
  let name ← entry "name" v
  match v with
  | .object members => return makeParameter members (text name) (text help) type
  | _ => .error ⟨"name"⟩

def command (v : Value) : Except Missing Command := do
  let name ← entry "command" v
  let description ← entry "description" v
  let args ← entry "args" v
  let parameters ← (items args).mapM parameter
  return { name := text name, description := text description, parameters }

def commands (v : Value) : Except Missing (List Command) := (items v).mapM command

end SampleSchema.CommandLine.Table
