import SampleSchema.Convert.Inference
import SampleSchema.Java.Source
/-!
Java files for the classes of a registry: one file a class, below the directory
of its package. Of several classes with one Java name the first is written and
the others are reported.
-/

namespace SampleSchema.Convert

open Schema Infer

/-- The outcome of writing Java files: their paths, what the store holds
afterwards and all that was reported. -/
structure JavaOutcome where
  result : Except Failure (List String)
  store : Files.Store
  log : Array Event := #[]
  progress : List Progress := []

def packageDirectory (out package : String) : String :=
  let below := package.map fun c => if c == '.' then '/' else c
  if below.isEmpty then out else Files.Path.join out below

def javaPath (out package javaName : String) : String :=
  Files.Path.join (packageDirectory out package) (javaName ++ ".java")

/-- Write one Java file, with its directory if that is missing. -/
def writeJava (style : Java.Style) (out javaName : String) (text : Text.Points)
    (store : Files.Store) : Files.Store × Option Files.WriteFault :=
  match store.makeDirectories (packageDirectory out style.package) true with
  | (store, some fault) => (store, some (.file fault))
  | (store, none) => store.writeText (javaPath out style.package javaName) text

/-- Write the files for the classes that are left. `taken` holds the Java names
in use with the classes that use them. -/
def writeClasses (style : Java.Style) (out : String) :
    List (String × Text.Points) → List InferredClass → Files.Store → Array Event → JavaOutcome
  | _, [], store, log => { result := .ok [], store, log }
  | taken, c :: rest, store, log =>
      let javaName := Java.className c.name
      match taken.lookup javaName with
      | some first =>
          writeClasses style out taken rest store (log.push (.collided first c.name javaName))
      | none =>
          match writeJava style out javaName (Java.source style c) store with
          | (store, some fault) => { result := .error (.ofWrite fault), store, log }
          | (store, none) =>
              let later := writeClasses style out ((javaName, c.name) :: taken) rest store log
              { later with
                result := later.result.map (javaPath out style.package javaName :: ·) }

def writeRegistry (style : Java.Style) (out : String) (registry : Registry)
    (store : Files.Store) : JavaOutcome :=
  let outcome := writeClasses style out [] registry.classes store #[]
  match outcome.result with
  | .error _ => outcome
  | .ok written => { outcome with log := outcome.log.push (.wrote written.length out) }

def jsonToJava (strict : Bool) (style : Java.Style) (root input out : String)
    (store : Files.Store) : JavaOutcome :=
  let inference := inferFile strict root input store
  match inference.result with
  | .error failure =>
      { result := .error failure, store, log := inference.log, progress := inference.progress }
  | .ok registry =>
      let outcome := writeRegistry style out registry store
      { outcome with
        log := inference.log ++ outcome.log
        progress := inference.progress }

end SampleSchema.Convert
