import SampleSchema.Java.Identifier
import SampleSchema.Naming.Pascal
import SampleSchema.Schema.FieldType
/-!
The Java names of classes, fields and accessors, and the Java types of fields.
-/

namespace SampleSchema.Java

open Naming Schema Text

/-! ## Classes -/

/-- A name with an underscore in place of every character other than ASCII
letters, digits and underscores. -/
def sanitize (name : Points) : String :=
  name.shown.map fun c => if c.isAlphanum || c == '_' then c else '_'

/-- The Pascal form of a sanitized name, or the name itself if that is empty. -/
def pascalOrSelf (name : String) : String :=
  let p := pascal name
  if p.isEmpty then upperFirst name else p

/-- The Java name of a class. A name without letters and digits is called
`Unnamed`, and an underscore goes before what would be no identifier. -/
def className (name : Points) : String :=
  let p := pascalOrSelf (sanitize name)
  let named := if p.toList.all (· == '_') then "Unnamed" ++ p else p
  if isIdentifier named then named else "_" ++ named

/-! ## Types -/

inductive TypeName where
  | simple (name : String)
  | listOf (items : TypeName)
  deriving DecidableEq, Repr

namespace TypeName

def render : TypeName → String
  | simple name => name
  | listOf items => "List<" ++ items.render ++ ">"

def isList : TypeName → Bool
  | simple _ => false
  | listOf _ => true

end TypeName

def leafType (t : FieldType) : String :=
  if t = .boolean then "Boolean"
  else if t = .integer then "Long"
  else if t = .decimal then "Double"
  else if t = .text then "String"
  else "Object"

def typeName : FieldType → TypeName
  | .list items => .listOf (typeName items)
  | .ref name => .simple (className name)
  | .leaf name => .simple (leafType (.leaf name))

/-! ## Fields and accessors -/

/-- A property as the accessor methods name it: its ASCII letters, digits and
dollar signs with a capital first letter, or `Field` if it has none. -/
def baseName (property : Points) : String :=
  let kept := property.shown.toList.filter fun c => c.isAlphanum || c == '$'
  if kept.isEmpty then "Field" else upperFirst (String.ofList kept)

def fieldOfBase (memberPrefix : Bool) (base : String) : String :=
  let name := if memberPrefix then "m" ++ base else base
  if isIdentifier name then name else "_" ++ name

def fieldName (memberPrefix : Bool) (property : Points) : String :=
  fieldOfBase memberPrefix (baseName property)

def parameterName (base : String) : String :=
  let name := lowerFirst base
  if isIdentifier name then name else "value"

/-- An accessor name followed by two, three and so on, after the name itself. One
of the first `n + 1` of these names is not among any `n` names. -/
def numbered (base : String) (n : Nat) : List String :=
  base :: (List.range n).map fun i => base ++ toString (i + 2)

/-- The first numbered form of an accessor name that is not in use. -/
def freeName (base : String) (used : List String) : String :=
  ((numbered base used.length).find? fun name => !used.contains name).getD base

end SampleSchema.Java
