import SampleSchema.CommandLine.Arguments
/-!
Programs with commands: the arguments before the name of a command belong to
the program, those after it to the command.
-/

namespace SampleSchema.CommandLine

open Json

structure Command where
  name : String
  description : String
  parameters : List Parameter

/-- The key under which the name of the command is kept. -/
def commandKey : String := "command"

/-- The grammar of a program: its own options and the name of a command. -/
def programGrammar (options : List Parameter) : Grammar :=
  ⟨options ++ [{ name := commandKey, arity := .remainder }]⟩

/-- Why reading the arguments of a program ends early. Help can be about the
program or about one of its commands. -/
inductive ProgramStop where
  | help (command : Option String)
  | refused (reason : Refusal)
  deriving DecidableEq, Repr

/-- What a stop means when it is met in the arguments of the program or of a
command. -/
def ProgramStop.of (command : Option String) : Stop → ProgramStop
  | .help => .help command
  | .refused reason => .refused reason

/-- The values of the second list over those of the first. -/
def overlay (values newer : List (String × Value)) : List (String × Value) :=
  newer.foldl (fun vs (k, v) => putMember k v vs) values

def parseCommand (commands : List Command) : List Value → Except ProgramStop (String × Parsed)
  | .string name :: arguments =>
      match commands.find? (·.name == name) with
      | none => .error (.refused (.invalidChoice commandKey))
      | some c => do
          let texts := arguments.filterMap fun
            | .string s => some s
            | _ => none
          let parsed ← ((Grammar.mk c.parameters).parse texts).mapError
            (ProgramStop.of (some name))
          return (name, parsed)
  | _ => .error (.refused (.invalidChoice commandKey))

/-- Read the arguments of a program. The result holds the name of the command
under its key, or null if there is none. -/
def parseProgram (options : List Parameter) (commands : List Command)
    (arguments : List String) : Except ProgramStop (List (String × Value)) := do
  let own ← ((programGrammar options).parse arguments).mapError (ProgramStop.of none)
  let (values, extras) ← match member? commandKey own.values with
    | some (.array words) => do
        let (name, parsed) ← parseCommand commands words
        pure (overlay (putMember commandKey (.string name) own.values) parsed.values,
          own.extras ++ parsed.extras)
    | _ => pure (own.values, own.extras)
  if extras.isEmpty then return values
  else throw (.refused (.unrecognized extras))

end SampleSchema.CommandLine
