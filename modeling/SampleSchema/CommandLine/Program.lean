import SampleSchema.CommandLine.Commands
import SampleSchema.CommandLine.Binding
/-!
The commands of the program: what they are called, their parameters, and what
becomes of these.
-/

namespace SampleSchema.CommandLine

open Json

inductive Job where
  /-- Write Java files for a JSON file. -/
  | javaFiles
  /-- Write the model file for a JSON file. -/
  | modelFile
  deriving DecidableEq, Repr

inductive Slot where
  | input
  | output
  | root
  | package
  | memberPrefix
  | alwaysExpose
  | strict
  deriving DecidableEq, Repr

structure Verb where
  command : Command
  job : Job
  bindings : List (Slot × Binding)

namespace Verb

def name (v : Verb) : String := v.command.name

def description (v : Verb) : String := v.command.description

end Verb

/-- A parameter that takes a text and need not be given. -/
private def textOption (name help : String) : Parameter := { name, help }

private def switch (name help : String) : Parameter :=
  { name, help, arity := .none, default := .bool false }

private def inputParameter : Parameter :=
  { name := "input", arity := .atMostOne,
    help := "Path of the JSON sample document (reads stdin if omitted)" }

private def rootParameter : Parameter :=
  textOption "--root" "Name of the root class (default: derived from the input file name)"

private def strictParameter : Parameter :=
  switch "--strict" "Fail when a merged class sees conflicting types for a property"

def javaVerb : Verb where
  command :=
    { name := "j2pojo"
      description := "Generate Java POJO classes from a JSON sample document"
      parameters :=
        [inputParameter,
          { name := "--out", help := "Output directory for the Java sources", required := true },
          rootParameter,
          { name := "--package", help := "Java package of the generated classes",
            default := .string "" },
          switch "--no-m-prefix" "Do not prefix field names with 'm'",
          switch "--always-expose" "Add @Expose to fields that also carry @SerializedName",
          strictParameter] }
  job := .javaFiles
  bindings :=
    [(.input, .inputPath), (.output, .outputPath), (.root, .valueOf "root"),
      (.package, .valueOf "package"), (.memberPrefix, .negated "no_m_prefix"),
      (.alwaysExpose, .valueOf "always_expose"), (.strict, .valueOf "strict")]

def modelVerb : Verb where
  command :=
    { name := "j2model"
      description := "Write the class model inferred from a JSON sample document as JSON"
      parameters :=
        [inputParameter,
          textOption "--out" "Path of the model file (writes to stdout if omitted)",
          rootParameter,
          strictParameter] }
  job := .modelFile
  bindings :=
    [(.input, .inputPath), (.output, .outputPath), (.root, .valueOf "root"),
      (.strict, .valueOf "strict")]

def verbs : List Verb := [javaVerb, modelVerb]

def programOptions : List Parameter :=
  [switch "--version" "Print the version of pojotize.",
    switch "--verbose" "Log inference details to stderr."]

def parseArguments (arguments : List String) : Except ProgramStop (List (String × Value)) :=
  parseProgram programOptions (verbs.map (·.command)) arguments

def versionLine : String := "pojotize 0.1.0\n"

end SampleSchema.CommandLine
