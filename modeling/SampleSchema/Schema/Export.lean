import SampleSchema.Json.Value
import SampleSchema.Schema.Registry
/-!
The JSON form of a registry. A leaf is written as its name, a list and a
reference as an object that says which of the two it is.
-/

namespace SampleSchema.Schema

open SampleSchema.Json

namespace FieldType

def toJson : FieldType → Document
  | leaf name => .string name
  | list items => .object [("type", .string "list"), ("items", items.toJson)]
  | ref className => .object [("type", .string "ref"), ("name", .string className)]

end FieldType

def InferredField.toJson (f : InferredField) : Document :=
  .object [("name", .string f.name), ("type", f.type.toJson)]

/-- The JSON form of a class: its name and its finalized fields. -/
def InferredClass.toJson (c : InferredClass) : Document :=
  .object [("name", .string c.name), ("fields", .array (c.fields.map (·.toJson)))]

def Registry.toJson (r : Registry) : Document :=
  .object [("classes", .array (r.classes.map (·.toJson)))]

end SampleSchema.Schema
