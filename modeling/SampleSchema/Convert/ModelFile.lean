import SampleSchema.Convert.Inference
import SampleSchema.Json.Printer
/-!
The model file: the JSON form of the classes of a document.
-/

namespace SampleSchema.Convert

open Schema Infer

structure ModelOutcome where
  result : Except Failure Registry
  store : Files.Store
  log : Array Event := #[]
  progress : List Progress := []

def modelText (registry : Registry) : String := Json.print registry.toJson

/-- Make the directory that a file is to be written to, if it is missing. -/
def prepareDirectory (path : String) (store : Files.Store) :
    Files.Store × Option Files.Fault :=
  let directory := Files.Path.directory path
  if directory.isEmpty || store.pathExists directory then (store, none)
  else store.makeDirectories directory false

def writeModel (registry : Registry) (path : String) (store : Files.Store) :
    Files.Store × Option Files.WriteFault :=
  match prepareDirectory path store with
  | (store, some fault) => (store, some (.file fault))
  | (store, none) => store.writeText path (modelText registry)

def jsonToModel (strict : Bool) (root input out : String) (store : Files.Store) :
    ModelOutcome :=
  let inference := inferFile strict root input store
  match inference.result with
  | .error failure =>
      { result := .error failure, store, log := inference.log, progress := inference.progress }
  | .ok registry =>
      let (store, fault) := writeModel registry out store
      { result := match fault with
          | some f => .error (.ofWrite f)
          | none => .ok registry
        store, log := inference.log, progress := inference.progress }

end SampleSchema.Convert
