import SampleSchema.CommandLine.StandardInput
/-!
The program: it takes over from the disk what a run looks at, lets the run
happen, and puts onto the disk what the run has changed.
-/

namespace SampleSchema

open Files CommandLine

/-- What a path leads to on the disk. A directory shows by the fault it gives
when it is read. -/
def nodeOnDisk? (path : String) : IO (Option Node) := do
  try
    return some (.file (← IO.FS.readBinFile path).toList)
  catch
    | .inappropriateType _ code _ =>
        return if code.toNat = Cause.isDirectory.number then some .directory else none
    | _ => return none

/-- Take over what a path leads to. -/
def takeOver (store : Store) (path : String) : IO Store :=
  match store.locate path with
  | .ok (.entry parent name _) => do
      match ← nodeOnDisk? path with
      | some node => return store.set (parent ++ [name]) node
      | none => return store
  | _ => return store

/-- Put the nodes that are new or changed onto the disk. -/
def putBack (before after : Store) : IO Unit :=
  for (location, node) in after.entries do
    if before.node? location ≠ some node then
      match node with
      | .directory => IO.FS.createDir location.path
      | .file bytes => IO.FS.writeBinFile location.path ⟨bytes.toArray⟩

end SampleSchema

open SampleSchema CommandLine

def main (arguments : List String) : IO UInt32 := do
  let demand := Demand.ofArguments arguments
  let stdin ← if demand.standardInput then (← IO.getStdin).readBinToEnd else pure .empty
  let store ← demand.paths.foldlM takeOver {}
  let setting : Setting :=
    { store, stdin := "", temporaryInput := "<stdin>.json", temporaryOutput := "<stdout>" }
  let session := runBytes setting stdin.toList arguments
  putBack store session.store
  IO.print session.stdout
  IO.eprint (session.stderr ++ session.complaint)
  return UInt32.ofNat session.exitCode
