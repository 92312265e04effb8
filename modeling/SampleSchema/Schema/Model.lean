import SampleSchema.Schema.FieldType
/-!
Classes and their fields. While a document is walked, fields are observed one
after the other; a field observed again keeps its place and takes the new type.
Finalizing a class lists its fields in the order of their names.
-/

namespace SampleSchema.Schema

open Text

structure InferredField where
  name : Points
  type : FieldType
  deriving DecidableEq, Repr, Inhabited

namespace InferredField

def insertSorted (f : InferredField) : List InferredField → List InferredField
  | [] => [f]
  | g :: rest => if f.name ≤ g.name then f :: g :: rest else g :: insertSorted f rest

def sortByName (fields : List InferredField) : List InferredField := fields.foldr insertSorted []

/-- Store a field in place of the one of the same name, or else at the end. -/
def put (f : InferredField) : List InferredField → List InferredField
  | [] => [f]
  | g :: rest => if g.name = f.name then f :: rest else g :: put f rest

end InferredField

structure InferredClass where
  name : Points
  /-- The fields in the order of their first observation. -/
  observed : List InferredField := []
  /-- The fields by name, as of the last finalization. -/
  fields : List InferredField := []
  deriving DecidableEq, Repr, Inhabited

namespace InferredClass

/-- The field observed last for a property. -/
def observed? (c : InferredClass) (property : Points) : Option InferredField :=
  c.observed.find? (·.name == property)

/-- Observe a field. -/
def put (c : InferredClass) (f : InferredField) : InferredClass :=
  { c with observed := f.put c.observed }

/-- List the observed fields in the order of their names. -/
def finalize (c : InferredClass) : InferredClass :=
  { c with fields := InferredField.sortByName c.observed }

def field? (c : InferredClass) (property : Points) : Option InferredField :=
  c.fields.find? (·.name == property)

end InferredClass
end SampleSchema.Schema
