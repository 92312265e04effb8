import SampleSchema.CommandLine.Parameter
/-!
How the arguments of a command look to its parameters. Each argument is marked
as an option, as an argument that an option or a positional parameter can take,
or as the separator after which there are no options.

An option can be cut short as long as what is left starts no other option, and
its value can follow after an equals sign.
-/

namespace SampleSchema.CommandLine

open Json

inductive Refusal where
  /-- Several options start like this. -/
  | ambiguous (argument : String)
  /-- An option is followed by too few arguments. -/
  | missingValue (parameter : String)
  /-- A switch is given a value. -/
  | unexpectedValue (parameter value : String)
  /-- An argument cannot be read as the parameter's type. -/
  | invalidValue (parameter value : String)
  /-- An argument is not among the choices. -/
  | invalidChoice (parameter : String)
  /-- Parameters that have to be given are missing. -/
  | missingParameters (names : List String)
  /-- No parameter takes these arguments. -/
  | unrecognized (arguments : List String)
  deriving DecidableEq, Repr

def Refusal.message : Refusal → String
  | ambiguous argument => "ambiguous option: " ++ argument
  | missingValue parameter => "argument " ++ parameter ++ ": expected an argument"
  | unexpectedValue parameter value =>
      "argument " ++ parameter ++ ": ignored explicit argument " ++ value
  | invalidValue parameter value => "argument " ++ parameter ++ ": invalid value: " ++ value
  | invalidChoice parameter => "argument " ++ parameter ++ ": invalid choice"
  | missingParameters names =>
      "the following arguments are required: " ++ ", ".intercalate names
  | unrecognized arguments => "unrecognized arguments: " ++ " ".intercalate arguments

inductive Stop where
  /-- Help was asked for. -/
  | help
  | refused (reason : Refusal)
  deriving DecidableEq, Repr

inductive Action where
  | help
  | set (p : Parameter)

namespace Action

/-- Help takes no arguments, like a switch. -/
def arity : Action → Arity
  | help => .none
  | set p => p.arity

def name : Action → String
  | help => "--help"
  | set p => p.name

end Action

/-- What a command can be given: its parameters, in the order in which they are
declared. Every command can be asked for help besides. -/
structure Grammar where
  parameters : List Parameter

namespace Grammar

def options (g : Grammar) : List (String × Action) :=
  [("-h", .help), ("--help", .help)] ++
    (g.parameters.filter (·.isOption)).map fun p => (p.name, .set p)

def positionals (g : Grammar) : List Parameter := g.parameters.filter fun p => !p.isOption

end Grammar

/-- An option as an argument gives it: its name, what it does, if it is known,
and the value that comes in the same argument. -/
structure OptionUse where
  name : String
  action : Option Action
  value : Option String := none

inductive Mark where
  | argument
  | separator
  | option (o : OptionUse)

namespace Mark

def isArgument : Mark → Bool
  | argument => true
  | _ => false

def isOption : Mark → Bool
  | option _ => true
  | _ => false

end Mark

/-- A text up to its first equals sign and what follows that, if there is one. -/
def splitAtEquals (s : List Char) : Option (List Char × List Char) :=
  if s.contains '=' then some (s.takeWhile (· != '='), (s.dropWhile (· != '=')).drop 1)
  else none

namespace Grammar

def startingWith (g : Grammar) (start : List Char) (value : Option String) : List OptionUse :=
  (g.options.filter fun o => start.isPrefixOf o.1.toList).map fun o =>
    { name := o.1, action := some o.2, value }

/-- The options that an argument can stand for, beyond one of exactly its name.
After two dashes an option can be cut short. After one dash it can be cut short
as well, and one of a single letter can be followed by its value. -/
def candidates (g : Grammar) (argument : List Char) : List OptionUse :=
  match argument with
  | '-' :: '-' :: _ =>
      match splitAtEquals argument with
      | some (start, value) => g.startingWith start (some (String.ofList value))
      | none => g.startingWith argument none
  | '-' :: c :: rest =>
      g.options.filterMap fun (name, action) =>
        if name.toList = ['-', c] then
          some { name, action := some action, value := some (String.ofList rest) }
        else if argument.isPrefixOf name.toList then some { name, action := some action }
        else none
  | _ => []

/-- The option that an argument gives by its full name, alone or with a value. -/
def fullName? (g : Grammar) (argument : String) : Option OptionUse :=
  match g.options.lookup argument with
  | some action => some { name := argument, action := some action }
  | none => do
      let (name, value) ← splitAtEquals argument.toList
      let action ← g.options.lookup (String.ofList name)
      return { name := String.ofList name, action := some action,
               value := some (String.ofList value) }

/-- An option of the grammar looks like a negative number. -/
def hasNumericOption (g : Grammar) : Bool := g.options.any fun o => Numeral.isNegativeNumber o.1

/-- Mark an argument that starts with a dash and is longer than that. -/
def markDashed (g : Grammar) (argument : String) : Except Refusal Mark :=
  match g.fullName? argument with
  | some o => .ok (.option o)
  | none =>
      match g.candidates argument.toList with
      | [o] => .ok (.option o)
      | [] =>
          if Numeral.isNegativeNumber argument && !g.hasNumericOption then .ok .argument
          else if argument.toList.contains ' ' then .ok .argument
          else .ok (.option { name := argument, action := none })
      | _ => .error (.ambiguous argument)

/-- Mark an argument before the separator. -/
def mark (g : Grammar) (argument : String) : Except Refusal Mark :=
  match argument.toList with
  | '-' :: _ :: _ => g.markDashed argument
  | _ => match g.options.lookup argument with
    | some action => .ok (.option { name := argument, action := some action })
    | none => .ok .argument

def markAll (g : Grammar) : List String → Except Refusal (List (String × Mark))
  | [] => .ok []
  | argument :: rest =>
      if argument = "--" then
        .ok ((argument, .separator) :: rest.map fun r => (r, .argument))
      else do
        let m ← g.mark argument
        return (argument, m) :: (← g.markAll rest)

end Grammar
end SampleSchema.CommandLine
