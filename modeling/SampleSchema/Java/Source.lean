import SampleSchema.Java.Member
/-!
The Java source of a class, line by line.
-/

namespace SampleSchema.Java

open Schema Text

def imports (members : List Member) : List String :=
  let annotations := members.flatMap (·.annotations)
  (if annotations.contains .expose then ["com.google.gson.annotations.Expose"] else [])
    ++ (if annotations.any (·.isSerializedName)
        then ["com.google.gson.annotations.SerializedName"] else [])
    ++ (if members.any (·.type.isList) then ["java.util.List"] else [])
    ++ ["javax.annotation.processing.Generated"]

def fieldLines (m : Member) : List Points :=
  Points.ofString "" :: m.annotations.map (fun a => "    " ++ a.render)
    ++ [Points.ofString ("    private " ++ m.type.render ++ " " ++ m.field ++ ";")]

def accessorLines (m : Member) : List String :=
  ["",
    "    public " ++ m.type.render ++ " " ++ m.getter ++ "() \x7b",
    "        return " ++ m.field ++ ";",
    "    \x7d",
    "",
    "    public void " ++ m.setter ++ "(" ++ m.type.render ++ " " ++ m.parameter ++ ") \x7b",
    "        " ++ m.target ++ " = " ++ m.parameter ++ ";",
    "    \x7d"]

/-- The package line and a blank line, unless the package has no name. -/
def packageLines (package : String) : List String :=
  if package.isEmpty then [] else ["package " ++ package ++ ";", ""]

def openingLines (style : Style) (name : String) (members : List Member) : List String :=
  packageLines style.package
    ++ (imports members).map (fun i => "import " ++ i ++ ";")
    ++ ["",
      "@Generated(\"" ++ style.generator ++ "\")",
      "@SuppressWarnings(\"unused\")",
      "public class " ++ name ++ " \x7b"]

def classLines (style : Style) (name : String) (members : List Member) : List Points :=
  (openingLines style name members).map .ofString
    ++ members.flatMap fieldLines
    ++ (members.flatMap accessorLines ++ ["\x7d"]).map .ofString

/-- Lines as a text, each with a line feed at its end. -/
def textOfLines (lines : List Points) : Points := lines.flatMap (· ++ "\n")

def source (style : Style) (c : InferredClass) : Points :=
  textOfLines (classLines style (className c.name) (members style c))

end SampleSchema.Java
