import SampleSchema.CommandLine.Table
import SampleSchema.CommandLine.Program
/-!
The table of the commands, and what their functions are called with. A command of a
table names its function, and says by texts where each argument of the function comes from.
-/

namespace SampleSchema.CommandLine

open Json

namespace Job

def function : Job → String
  | javaFiles => "pojotize.jsontopojo.convert_json_to_pojo"
  | modelFile => "pojotize.jsontopojo.convert_json_to_model"

/-- What the function of a job calls its arguments. -/
def keywords : Job → List (String × Slot)
  | javaFiles =>
      [("json_file_path", .input), ("output_dir", .output), ("root_class_name", .root),
        ("package_name", .package), ("use_m_prefix", .memberPrefix),
        ("always_annotate_expose", .alwaysExpose), ("strict", .strict)]
  | modelFile =>
      [("json_file_path", .input), ("model_file_path", .output), ("root_class_name", .root),
        ("strict", .strict)]

end Job

namespace Table

def job (function : String) : Except Missing Job :=
  match [Job.javaFiles, Job.modelFile].find? (·.function == function) with
  | some job => .ok job
  | none => .error ⟨function⟩

def binding (job : Job) (member : String × Value) : Except Missing (Slot × Binding) :=
  match job.keywords.lookup member.1 with
  | some slot => .ok (slot, Binding.ofText (text member.2))
  | none => .error ⟨member.1⟩

def members : Value → List (String × Value)
  | .object ms => ms
  | _ => []

def verb (v : Value) : Except Missing Verb := do
  let command ← command v
  let function ← entry "function" v
  let job ← job (text (← entry "name" function))
  let bindings ← (members (← entry "args" function)).mapM (binding job)
  return { command, job, bindings }

def verbs (v : Value) : Except Missing (List Verb) := (items v).mapM verb

end Table

private def inputEntry : Value :=
  .object [("name", .string "input"), ("type", .string "str"), ("nargs", .string "?"),
    ("help", .string "Path of the JSON sample document (reads stdin if omitted)"),
    ("required", .bool false)]

private def rootEntry : Value :=
  .object [("name", .string "--root"), ("type", .string "str"),
    ("help", .string "Name of the root class (default: derived from the input file name)"),
    ("required", .bool false)]

private def switchEntry (name help : String) : Value :=
  .object [("name", .string name), ("type", .string "bool"), ("help", .string help),
    ("default", .bool false), ("required", .bool false)]

private def strictEntry : Value :=
  switchEntry "--strict" "Fail when a merged class sees conflicting types for a property"

def commandTable : Value :=
  .array
    [.object
      [("command", .string "j2pojo"),
        ("description", .string "Generate Java POJO classes from a JSON sample document"),
        ("function", .object
          [("name", .string "pojotize.jsontopojo.convert_json_to_pojo"),
            ("args", .object
              [("json_file_path", .string "input_file_path"),
                ("output_dir", .string "output_file_path"),
                ("root_class_name", .string "args.root"),
                ("package_name", .string "args.package"),
                ("use_m_prefix", .string "not args.no_m_prefix"),
                ("always_annotate_expose", .string "args.always_expose"),
                ("strict", .string "args.strict")])]),
        ("args", .array
          [inputEntry,
            .object [("name", .string "--out"), ("type", .string "str"),
              ("help", .string "Output directory for the Java sources"),
              ("required", .bool true)],
            rootEntry,
            .object [("name", .string "--package"), ("type", .string "str"),
              ("help", .string "Java package of the generated classes"),
              ("default", .string ""), ("required", .bool false)],
            switchEntry "--no-m-prefix" "Do not prefix field names with 'm'",
            switchEntry "--always-expose"
              "Add @Expose to fields that also carry @SerializedName",
            strictEntry])],
      .object
        [("command", .string "j2model"),
          ("description",
            .string "Write the class model inferred from a JSON sample document as JSON"),
          ("function", .object
            [("name", .string "pojotize.jsontopojo.convert_json_to_model"),
              ("args", .object
                [("json_file_path", .string "input_file_path"),
                  ("model_file_path", .string "output_file_path"),
                  ("root_class_name", .string "args.root"),
                  ("strict", .string "args.strict")])]),
          ("args", .array
            [inputEntry,
              .object [("name", .string "--out"), ("type", .string "str"),
                ("help", .string "Path of the model file (writes to stdout if omitted)"),
                ("required", .bool false)],
              rootEntry,
              strictEntry])]]

end SampleSchema.CommandLine
