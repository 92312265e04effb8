import SampleSchema.CommandLine.Parameter
/-!
Where the arguments of a job come from: the paths of its input and its output,
the values of parameters, their negations and fixed texts.
-/

namespace SampleSchema.CommandLine

open Json

/-- The source of one argument of a job. -/
inductive Binding where
  | inputPath
  | outputPath
  /-- True unless the value of the parameter counts as true. -/
  | negated (key : String)
  /-- The value of the parameter. -/
  | valueOf (key : String)
  | fixed (text : String)
  deriving DecidableEq, Repr

/-- A value counts as true unless it is null, false, zero or empty. -/
def isTruthy : Value → Bool
  | .null => false
  | .bool b => b
  | .int n => n != 0
  | .float lexeme => Decimal.value lexeme != 0
  | .string s => !s.isEmpty
  | .array items => !items.isEmpty
  | .object members => !members.isEmpty

/-- The text after a given beginning. -/
def afterStart? (start s : String) : Option String :=
  if start.toList.isPrefixOf s.toList then some (String.ofList (s.toList.drop start.length))
  else none

namespace Binding

def ofText (s : String) : Binding :=
  if s = "input_file_path" then inputPath
  else if s = "output_file_path" then outputPath
  else match afterStart? "not args." s with
    | some key => negated key
    | none =>
      match afterStart? "args." s with
      | some key => valueOf key
      | none => fixed s

/-- The argument that a binding gives. An empty output path and a parameter that
has no value give none. -/
def argument? (values : List (String × Value)) (input output : Value) : Binding → Option Value
  | inputPath => some input
  | outputPath => if isTruthy output then some output else none
  | negated key => some (.bool !((member? key values).map isTruthy).getD false)
  | valueOf key => member? key values
  | fixed text => some (.string text)

end Binding

def bindArguments {Slot : Type} (bindings : List (Slot × Binding))
    (values : List (String × Value)) (input output : Value) : List (Slot × Value) :=
  bindings.filterMap fun (slot, binding) =>
    (binding.argument? values input output).map fun v => (slot, v)

end SampleSchema.CommandLine
