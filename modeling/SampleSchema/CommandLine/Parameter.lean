import SampleSchema.CommandLine.Numeral
import SampleSchema.Json.Decimal
/-!
The parameters of a command: options, which are given by name, and positional
parameters, which are given by place.
-/

namespace SampleSchema.CommandLine

open Json

inductive Arity where
  /-- None: the parameter is a switch. -/
  | none
  | one
  | atMostOne
  | any
  | atLeastOne
  | exactly (n : Nat)
  /-- One argument and all that follows it, options included. -/
  | remainder
  deriving DecidableEq, Repr

/-- What the arguments of a parameter are read as. -/
inductive ValueType where
  | text
  | integer
  | decimal
  deriving DecidableEq, Repr

structure Parameter where
  name : String
  arity : Arity := .one
  type : ValueType := .text
  /-- The values that are accepted, if not all are. -/
  choices : Option (List Value) := .none
  default : Value := .null
  required : Bool := false
  help : String := ""

/-- The name under which the value of an option is kept: the option's name
without the dashes in front of it, and with underscores for those in it. -/
def optionKey (name : String) : String :=
  String.ofList ((name.toList.dropWhile (· == '-')).map fun c => if c == '-' then '_' else c)

/-- Two values are the same choice. A truth value counts as a number. -/
def sameChoice : Value → Value → Bool
  | .null, .null => true
  | .string a, .string b => a == b
  | a, b =>
      match number? a, number? b with
      | some m, some n => m == n
      | _, _ => false
where
  number? : Value → Option Float
    | .bool b => some (if b then 1 else 0)
    | .int n => some (Float.ofInt n)
    | .float lexeme => some (Decimal.value lexeme)
    | _ => Option.none

namespace Parameter

def isOption (p : Parameter) : Bool := p.name.toList.head? == some '-'

/-- The name under which the value of the parameter is kept. -/
def key (p : Parameter) : String := if p.isOption then optionKey p.name else p.name

def readArgument (p : Parameter) (argument : String) : Option Value :=
  match p.arity, p.type with
  | .none, _ => some (.string argument)
  | _, .text => some (.string argument)
  | _, .integer => (Numeral.integer? argument).map .int
  | _, .decimal => (Numeral.decimal? argument).map .float

def accepts (p : Parameter) (v : Value) : Bool :=
  match p.choices with
  | some choices => choices.any (sameChoice v)
  | .none => true

end Parameter
end SampleSchema.CommandLine
