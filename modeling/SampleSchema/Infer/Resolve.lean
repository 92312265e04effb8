import SampleSchema.Json.Value
import SampleSchema.Schema.Registry
/-!
The type that a value shows for the property it is stored under.

Of an array only the first element is looked at, and an object there belongs to the
class that is named like the singular of the property. Which word that is is not said
here: `singular` stands for any function from words to words. A null is taken for a
missing object of the class that is named like the property, if there is such a class
by then.
-/

namespace SampleSchema.Infer

open Json Schema Text

def scalarType : Document → FieldType
  | .bool _ => .boolean
  | .int _ => .integer
  | .float _ => .decimal
  | .string _ => .text
  | _ => .anything

variable (singular : Points → Points)

/-- The type of the elements of an array, judged by the first of them. -/
def itemType (property : Points) : Document → FieldType
  | .object _ => .ref (singular property)
  | .null => .anything
  | .array _ => .untyped
  | v => scalarType v

/-- The type that a value shows under a property. `isClass` tells which classes
exist. -/
def resolve (isClass : Points → Bool) (property : Points) : Document → FieldType
  | .array [] => .list .anything
  | .array (first :: _) => .list (itemType singular property first)
  | .object _ => .ref property
  | .null => if isClass property then .ref property else .anything
  | v => scalarType v

/-- The class and the members of the object that a value holds for a property:
the object itself under the property's name, or the first element of an array
under the singular of that name. -/
def nested? (property : Points) : Document → Option (Points × List (Points × Document))
  | .object members => some (property, members)
  | .array (.object members :: _) => some (singular property, members)
  | _ => none

end SampleSchema.Infer
