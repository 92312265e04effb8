import SampleSchema.Schema.Model
/-!
The classes of a document in the order of their creation, found by name.
-/

namespace SampleSchema.Schema

open Text

structure Registry where
  classes : List InferredClass := []
  deriving DecidableEq, Repr, Inhabited

namespace Registry

def empty : Registry := {}

instance : EmptyCollection Registry := ⟨empty⟩

/-- The names of the classes in the order of their creation. -/
def names (r : Registry) : List Points := r.classes.map (·.name)

def size (r : Registry) : Nat := r.classes.length

def contains (r : Registry) (name : Points) : Bool := r.classes.any (·.name == name)

def get? (r : Registry) (name : Points) : Option InferredClass :=
  r.classes.find? (·.name == name)

/-- Make sure that a class of this name exists. A new class goes to the end. -/
def create (r : Registry) (name : Points) : Registry :=
  if r.contains name then r else ⟨r.classes ++ [{ name := name }]⟩

def modify (r : Registry) (name : Points) (change : InferredClass → InferredClass) : Registry :=
  ⟨r.classes.map fun c => if c.name = name then change c else c⟩

/-- Observe a field in the class of this name. -/
def put (r : Registry) (name : Points) (f : InferredField) : Registry := r.modify name (·.put f)

def observed? (r : Registry) (name property : Points) : Option InferredField :=
  (r.get? name).bind (·.observed? property)

def finalize (r : Registry) : Registry := ⟨r.classes.map (·.finalize)⟩

end Registry
end SampleSchema.Schema
