import SampleSchema.Log
import SampleSchema.Infer.Resolve
/-!
The state of a walk over a document: the classes so far and what was reported.
A walk changes it in two ways. It enters an object, which makes sure that the
object's class exists, and it observes a field, which in strict mode can stop
the walk.
-/

namespace SampleSchema.Infer

open Json Schema Text

structure Draft where
  registry : Registry := ∅
  log : Array Event := #[]
  deriving Repr

structure Conflict where
  className : Points
  property : Points
  existing : FieldType
  new : FieldType
  deriving DecidableEq, Repr

namespace Conflict

def message (c : Conflict) : Points :=
  "Conflicting types for property '" ++ c.property ++ "': " ++ c.existing.describe
    ++ " vs " ++ c.new.describe

end Conflict

/-- A walk that a conflict ended, with the state it had reached. -/
structure Stopped where
  conflict : Conflict
  draft : Draft
  deriving Repr

namespace Draft

def report (d : Draft) (e : Event) : Draft := { d with log := d.log.push e }

/-- Make sure that a class exists, since an object belongs to it. -/
def enter (d : Draft) (className : Points) : Draft :=
  if d.registry.contains className then d.report (.merged className)
  else { d with registry := d.registry.create className }.report (.created className)

/-- Store a field without a look at the type it replaces. -/
def store (d : Draft) (className : Points) (f : InferredField) : Draft :=
  { d with registry := d.registry.put className f }

/-- Observe a field that has been observed with another type. Outside strict
mode the new type always counts. In strict mode a fallback never replaces a
concrete type, and two concrete types are a conflict. -/
def replace (strict : Bool) (d : Draft) (className : Points) (existing : FieldType)
    (f : InferredField) : Except Stopped Draft :=
  if strict && !existing.isFallback then
    if f.type.isFallback then .ok (d.report (.kept className f.name existing f.type))
    else .error ⟨⟨className, f.name, existing, f.type⟩, d⟩
  else .ok ((d.report (.changed className f.name existing f.type)).store className f)

def observe (strict : Bool) (d : Draft) (className : Points) (f : InferredField) :
    Except Stopped Draft :=
  match d.registry.observed? className f.name with
  | some old =>
      if old.type = f.type then .ok (d.store className f)
      else d.replace strict className old.type f
  | none => .ok (d.store className f)

def visit (singular : Points → Points) (strict : Bool) (d : Draft) (className property : Points)
    (v : Document) :
    Except Stopped Draft :=
  d.observe strict className ⟨property, resolve singular d.registry.contains property v⟩

end Draft
end SampleSchema.Infer
