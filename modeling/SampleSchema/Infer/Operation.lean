import SampleSchema.Infer.Resolve
/-!
A registry as its users see it: they ask for a class by its name, put fields into
it, finalize it, and resolve values against the classes that are there. Only a
class that has been asked for can be changed.
-/

namespace SampleSchema.Infer

open Json Schema Text

inductive Operation where
  /-- Ask for the class of this name. It is created if there is none. -/
  | getOrCreate (name : Points)
  /-- Put a field into the class of this name. -/
  | put (name : Points) (f : InferredField)
  /-- Finalize the class of this name. -/
  | finalize (name : Points)
  /-- Resolve the type that a value shows for a property. -/
  | resolve (property : Points) (v : Document)

inductive Answer where
  /-- The class that was asked for, and whether it is new. -/
  | got (c : InferredClass) (created : Bool)
  /-- The field that was replaced, if there was one. -/
  | replaced (old : Option InferredField)
  | finalized
  | resolved (t : FieldType)
  /-- There is no class of this name. -/
  | missing (name : Points)
  deriving DecidableEq, Repr

namespace Operation

def perform (singular : Points → Points) (r : Registry) : Operation → Registry × Answer
  | getOrCreate name =>
      match r.get? name with
      | some c => (r, .got c false)
      | none => (r.create name, .got { name } true)
  | put name f =>
      match r.get? name with
      | some c => (r.put name f, .replaced (c.observed? f.name))
      | none => (r, .missing name)
  | finalize name =>
      match r.get? name with
      | some _ => (r.modify name (·.finalize), .finalized)
      | none => (r, .missing name)
  | resolve property v => (r, .resolved (Infer.resolve singular r.contains property v))

end Operation

def registryAfter (singular : Points → Points) (ops : List Operation) : Registry :=
  ops.foldl (fun r op => (op.perform singular r).1) ∅

end SampleSchema.Infer
