/-!
The help of the program and of its commands, laid out for eighty columns.
-/

namespace SampleSchema.CommandLine.Help

def textOf (lines : List String) : String := String.join (lines.map (· ++ "\n"))

def program : String := textOf
  ["usage: pojotize [-h] [--version] [--verbose] \x7bj2pojo,j2model\x7d ...",
    "",
    "Infer classes from a JSON sample document and generate Java POJOs.",
    "",
    "positional arguments:",
    "  \x7bj2pojo,j2model\x7d",
    "    j2pojo          Generate Java POJO classes from a JSON sample document",
    "    j2model         Write the class model inferred from a JSON sample document",
    "                    as JSON",
    "",
    "options:",
    "  -h, --help        show this help message and exit",
    "  --version         Print the version of pojotize.",
    "  --verbose         Log inference details to stderr."]

/-- The help of the command that writes Java sources. -/
def java : String := textOf
  ["usage: pojotize j2pojo [-h] --out OUT [--root ROOT] [--package PACKAGE]",
    "                       [--no-m-prefix] [--always-expose] [--strict]",
    "                       [input]",
    "",
    "positional arguments:",
    "  input              Path of the JSON sample document (reads stdin if omitted)",
    "",
    "options:",
    "  -h, --help         show this help message and exit",
    "  --out OUT          Output directory for the Java sources",
    "  --root ROOT        Name of the root class (default: derived from the input",
    "                     file name)",
    "  --package PACKAGE  Java package of the generated classes",
    "  --no-m-prefix      Do not prefix field names with 'm'",
    "  --always-expose    Add @Expose to fields that also carry @SerializedName",
    "  --strict           Fail when a merged class sees conflicting types for a",
    "                     property"]

/-- The help of the command that writes the model. -/
def model : String := textOf
  ["usage: pojotize j2model [-h] [--out OUT] [--root ROOT] [--strict] [input]",
    "",
    "positional arguments:",
    "  input        Path of the JSON sample document (reads stdin if omitted)",
    "",
    "options:",
    "  -h, --help   show this help message and exit",
    "  --out OUT    Path of the model file (writes to stdout if omitted)",
    "  --root ROOT  Name of the root class (default: derived from the input file",
    "               name)",
    "  --strict     Fail when a merged class sees conflicting types for a property"]

/-- The help of a command, or of the program if there is no such command. -/
def of (command : Option String) : String :=
  match command with
  | some "j2pojo" => java
  | some "j2model" => model
  | _ => program

end SampleSchema.CommandLine.Help
