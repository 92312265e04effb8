import SampleSchema.CommandLine.Run
/-!
What a run needs of the world around it, told by its arguments alone: whether it
reads the standard input, and at which paths it looks.
-/

namespace SampleSchema.CommandLine

open Json

structure Demand where
  standardInput : Bool := false
  /-- The paths that have to be looked up, those on the way to others first. -/
  paths : List String := []
  deriving DecidableEq, Repr

def textUnder? (key : String) (values : List (String × Value)) : Option String :=
  match member? key values with
  | some (.string s) => some s
  | _ => none

namespace Demand

/-- The output of a command and, if its classes have a package, the directory of
the package. -/
def outputPaths (values : List (String × Value)) : List String :=
  match textUnder? "out" values with
  | none => []
  | some out => [out, Convert.packageDirectory out ((textUnder? "package" values).getD "")]

def ofValues (values : List (String × Value)) : Demand :=
  let input := textUnder? "input" values
  { standardInput := input.isNone
    paths := (input.toList ++ outputPaths values).flatMap Files.Path.passed }

/-- What a run with these arguments reads: nothing, unless they name a command
that is performed. -/
def ofArguments (arguments : List String) : Demand :=
  match parseArguments arguments with
  | .error _ => {}
  | .ok values =>
      if isSet "version" values || (textUnder? commandKey values).isNone then {}
      else ofValues values

end Demand
end SampleSchema.CommandLine
