import SampleSchema.Text.Point
/-!
JSON values as the schema inference sees them. Objects keep the order of
their keys; a float keeps its spelling, since only its kind ever matters, and
an integer keeps its value.
-/

namespace SampleSchema.Json

/-- A JSON value whose strings and keys are of type `S`. -/
inductive Tree (S : Type) where
  | null
  | bool (b : Bool)
  | int (n : Int)
  | float (lexeme : String)
  | string (s : S)
  | array (items : List (Tree S))
  | object (members : List (S × Tree S))
  deriving Inhabited

/-- A JSON text as it is read. -/
abbrev Document : Type := Tree Text.Points

/-- A value that the program makes itself. -/
abbrev Value : Type := Tree String

/-- The kinds of value that a document can have at its root, apart from objects. -/
inductive Kind where
  | null
  | boolean
  | number
  | string
  | array
  | object
  deriving DecidableEq, Repr

namespace Kind

def describe : Kind → String
  | null => "null"
  | boolean => "a boolean"
  | number => "a number"
  | string => "a string"
  | array => "an array"
  | object => "an object"

end Kind

namespace Tree

variable {S : Type}

/-- Integers and floats are both numbers. -/
def kind : Tree S → Kind
  | null => .null
  | bool _ => .boolean
  | int _ => .number
  | float _ => .number
  | string _ => .string
  | array _ => .array
  | object _ => .object

end Tree

/-- Store a member in an object. A key that is already there keeps its place
and takes the new value; a new key goes to the end. -/
def putMember {S V : Type} [DecidableEq S] (key : S) (value : V) : List (S × V) → List (S × V)
  | [] => [(key, value)]
  | (k, v) :: rest =>
      if k = key then (k, value) :: rest
      else (k, v) :: putMember key value rest

def member? {S V : Type} [DecidableEq S] (key : S) (members : List (S × V)) : Option V :=
  (members.find? fun m => m.1 == key).map (·.2)

end SampleSchema.Json
