import SampleSchema.Infer.Walk
/-!
From a document to its classes: the document is walked from its root object,
and then every class is finalized in the order of creation. A builder can be
used again; each build starts with no classes.
-/

namespace SampleSchema.Infer

open Json Schema Text

inductive Fault where
  | emptyRootName
  /-- The document under this root name is no object. -/
  | notAnObject (root : Points) (kind : Kind)
  | conflict (c : Conflict)
  deriving DecidableEq, Repr

namespace Fault

def message : Fault → Points
  | emptyRootName => "Root class name must not be empty"
  | notAnObject _ kind => "Document root must be a JSON object, not " ++ kind.describe
  | conflict c => c.message

/-- The class in which the fault was found. -/
def context? : Fault → Option Points
  | emptyRootName => none
  | notAnObject root _ => some root
  | conflict c => some c.className

end Fault

structure Progress where
  completed : Nat
  total : Nat
  deriving DecidableEq, Repr

/-- One step of progress for each of `n` classes. -/
def Progress.upTo (n : Nat) : List Progress :=
  (List.range n).map fun i => ⟨i + 1, n⟩

structure Builder where
  strict : Bool := false
  registry : Registry := ∅
  deriving Repr

structure Report where
  /-- What went wrong, if anything did. -/
  fault : Option Fault
  /-- The classes that the builder holds afterwards. -/
  registry : Registry
  log : Array Event
  progress : List Progress
  deriving Repr

def rootFrame (root : Points) (members : List (Points × Document)) : Frame :=
  { className := root, members }

variable (singular : Points → Points)

def walkDocument (strict : Bool) (root : Points) (members : List (Points × Document)) :
    Except Stopped Draft :=
  walk singular strict [rootFrame root members] (Draft.enter {} root)

namespace Builder

/-- A build that is refused before the walk changes nothing. -/
private def refuse (b : Builder) (fault : Fault) : Report :=
  { fault := some fault, registry := b.registry, log := #[], progress := [] }

def buildObject (strict : Bool) (root : Points) (members : List (Points × Document)) : Report :=
  match walkDocument singular strict root members with
  | .error ⟨conflict, draft⟩ =>
      { fault := some (.conflict conflict), registry := draft.registry, log := draft.log,
        progress := [] }
  | .ok draft =>
      { fault := none, registry := draft.registry.finalize, log := draft.log,
        progress := Progress.upTo draft.registry.size }

def build (b : Builder) (root : Points) (document : Document) : Report :=
  if root.isEmpty then b.refuse .emptyRootName
  else match document with
    | .object members => buildObject singular b.strict root members
    | v => b.refuse (.notAnObject root v.kind)

def after (b : Builder) (report : Report) : Builder := { b with registry := report.registry }

end Builder

/-- Build the classes of a document with a new builder. -/
def buildSchema (strict : Bool) (root : Points) (document : Document) : Report :=
  Builder.build singular { strict := strict } root document

end SampleSchema.Infer
