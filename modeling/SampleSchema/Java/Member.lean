import SampleSchema.Java.Naming
import SampleSchema.Java.Literal
import SampleSchema.Schema.Model
/-!
The members of a Java class: for each property a private field with its
annotations, a getter and a setter.
-/

namespace SampleSchema.Java

open Schema Text

structure Style where
  /-- The package of the classes, or nothing. -/
  package : String := ""
  /-- Fields start with `m`. -/
  memberPrefix : Bool := true
  /-- Fields with another name in JSON are marked as exposed, too. -/
  alwaysExpose : Bool := false
  /-- What the classes say they are generated by. -/
  generator : String := "pojotize"
  deriving DecidableEq, Repr

inductive Marker where
  /-- The field has this name in JSON. -/
  | serializedName (property : Points)
  /-- The field takes part in the conversion from and to JSON. -/
  | expose
  deriving DecidableEq, Repr

namespace Marker

def render : Marker → Points
  | serializedName property => "@SerializedName(\"" ++ Literal.escape property ++ "\")"
  | expose => "@Expose"

/-- The annotation gives a name. -/
def isSerializedName : Marker → Bool
  | serializedName _ => true
  | expose => false

end Marker

/-- A field with its accessors. -/
structure Member where
  property : Points
  field : String
  type : TypeName
  annotations : List Marker
  getter : String
  setter : String
  parameter : String
  /-- What the setter assigns to. -/
  target : String
  deriving DecidableEq, Repr

/-- A field whose name differs from its property says so. -/
def fieldAnnotations (style : Style) (field : String) (property : Points) : List Marker :=
  if (field : Points) = property then [.expose]
  else if style.alwaysExpose then [.serializedName property, .expose]
  else [.serializedName property]

/-- What a setter assigns to: the field is qualified if the parameter hides it. -/
def assignTarget (field parameter : String) : String :=
  if field = parameter then "this." ++ field else field

def memberOfBase (style : Style) (f : InferredField) (base : String) : Member :=
  let field := fieldOfBase style.memberPrefix base
  let parameter := parameterName base
  { property := f.name
    field
    type := typeName f.type
    annotations := fieldAnnotations style field f.name
    getter := "get" ++ base
    setter := "set" ++ base
    parameter
    target := assignTarget field parameter }

/-- The member of a field that shares its class with no other. -/
def soleMember (style : Style) (f : InferredField) : Member :=
  memberOfBase style f (baseName f.name)

/-- The members of fields that share a class, and the accessor names in use
afterwards. A name that is in use already is numbered. -/
def membersOf (style : Style) : List String → List InferredField → List Member × List String
  | used, [] => ([], used)
  | used, f :: rest =>
      let base := freeName (baseName f.name) used
      let (members, used) := membersOf style (used ++ [base]) rest
      (memberOfBase style f base :: members, used)

/-- Accessor names that no class can use, since `getClass` is final. -/
def inheritedNames : List String := ["Class"]

def members (style : Style) (c : InferredClass) : List Member :=
  (membersOf style inheritedNames c.fields).1

end SampleSchema.Java
