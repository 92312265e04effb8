import SampleSchema.Convert.Failure
import SampleSchema.Json.Reader
import SampleSchema.Naming.Pascal
import SampleSchema.Naming.Singular
import SampleSchema.Schema.Export
/-!
From JSON text to classes.
-/

namespace SampleSchema.Convert

open Schema Infer

structure Inference where
  result : Except Failure Registry
  log : Array Event := #[]
  progress : List Progress := []

/-- Infer the classes of a JSON text whose root object is an instance of the
class `root`. -/
def inferText (strict : Bool) (root text : String) : Inference :=
  match Json.read text with
  | .error fault => { result := .error (.ofJson root text fault) }
  | .ok document =>
      let report := buildSchema Naming.singular strict root document
      match report.fault with
      | some fault =>
          { result := .error (.schema fault), log := report.log, progress := report.progress }
      | none =>
          { result := .ok report.registry
            log := report.log.push (.inferred report.registry.size root)
            progress := report.progress }

/-- The name of the root class if nothing gives another one. -/
def defaultRoot : String := "Root"

/-- A file name with underscores between its words. -/
def separateWords (s : String) : String :=
  s.map fun c => if c == '-' || c == ' ' || c == '.' then '_' else c

/-- The root class for a document in a file: the file's name without its
extension, in Pascal case. -/
def rootOfPath (path : String) : String :=
  let name := Naming.pascal (separateWords (Files.Path.stem (Files.Path.name path)))
  if name.isEmpty then defaultRoot else name

def rootOr (root path : String) : String := if root.isEmpty then rootOfPath path else root

def inferFile (strict : Bool) (root path : String) (store : Files.Store) : Inference :=
  match store.readText path with
  | .error fault => { result := .error (.ofRead fault) }
  | .ok text => inferText strict (rootOr root path) text

end SampleSchema.Convert
