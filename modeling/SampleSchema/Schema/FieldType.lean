import SampleSchema.Text.Point
/-!
Field types: named leaves, lists and references to classes. A reference names
its class and does not hold it, so that classes can refer to each other.
-/

namespace SampleSchema.Schema

open Text

inductive FieldType where
  /-- A type without parts, such as `String`. -/
  | leaf (name : String)
  | list (items : FieldType)
  /-- The class of this name. -/
  | ref (className : Points)
  deriving DecidableEq, Repr, Inhabited

namespace FieldType

def boolean : FieldType := leaf "Boolean"

/-- The type of numbers without fraction and exponent. -/
def integer : FieldType := leaf "Integer64"

/-- The type of all other numbers. -/
def decimal : FieldType := leaf "Float64"

def text : FieldType := leaf "String"

/-- The type of a value of which nothing is known. -/
def anything : FieldType := leaf "Object"

/-- The type of the elements of an array in an array. -/
def untyped : FieldType := leaf "Untyped"

def describe : FieldType → Points
  | leaf name => name
  | list items => "ListOf(" ++ items.describe ++ ")"
  | ref className => "ClassRef(" ++ className ++ ")"

/-- The two leaves that say nothing about a value. -/
def isBlankLeaf (t : FieldType) : Bool := t == anything || t == untyped

/-- Types that stand for a value of which nothing is known, or for a list of
such values. They come from nulls and from arrays that show no element type. -/
def isFallback : FieldType → Bool
  | list items => items.isBlankLeaf
  | t => t.isBlankLeaf

end FieldType
end SampleSchema.Schema
