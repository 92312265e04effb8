import SampleSchema.Files.Path
import SampleSchema.Files.Store
import SampleSchema.Text.Newline
import SampleSchema.Text.Utf8
/-!
Text files and nested directories. A text file is read as strict UTF-8 with its
line ends turned into line feeds, and written as strict UTF-8 with its line ends as
they are.
-/

namespace SampleSchema.Files

open Text

inductive ReadFault where
  | file (f : Fault)
  | encoding (f : Utf8.Fault)
  deriving DecidableEq, Repr

inductive WriteFault where
  | file (f : Fault)
  | encoding (f : Utf8.EncodeFault)
  deriving DecidableEq, Repr

namespace Store

def readText (s : Store) (path : String) : Except ReadFault String :=
  match s.readBytes path with
  | .error f => .error (.file f)
  | .ok bytes =>
      match Utf8.decode bytes with
      | .error f => .error (.encoding f)
      | .ok chars => .ok (String.ofList (lineFeedsOnly chars))

/-- Write a text file. The file is there, and empty, if the text cannot be encoded. -/
def writeText (s : Store) (path : String) (text : Points) : Store × Option WriteFault :=
  let (bytes, fault) := match Utf8.encodePoints text with
    | .ok bytes => (bytes, none)
    | .error f => ([], some (.encoding f))
  match s.writeBytes path bytes with
  | .error f => (s, some (.file f))
  | .ok s => (s, fault)

/-- A path as the directory to make last and the path to make before it. A slash
at its end does not count. -/
def parentAndLast (path : String) : String × String :=
  let (head, last) := Path.split path
  if last.isEmpty then Path.split head else (head, last)

/-- Make the directory at the end of a path, where those above it exist. A
directory that is there already is a fault unless `mayExist`. -/
def makeLast (s : Store) (mayExist : Bool) (path : String) : Store × Option Fault :=
  match s.makeDirectory path with
  | .ok made => (made, none)
  | .error f => (s, if mayExist && s.isDirectory path then none else some f)

/-- Make the directories of a path from the outermost on. The fuel bounds their
number by the length of the path. The store is returned with a fault, too,
since some directories may have been made before it. -/
def makeAll (mayExist : Bool) : Nat → Store → String → Store × Option Fault
  | 0, s, path => s.makeLast mayExist path
  | fuel + 1, s, path =>
      let (above, last) := parentAndLast path
      if above.isEmpty || last.isEmpty || s.pathExists above then
        s.makeLast mayExist path
      else
        match makeAll mayExist fuel s above with
        | (s, some f) =>
            if f.cause ≠ .fileExists then (s, some f)
            else if last = "." then (s, none)
            else s.makeLast mayExist path
        | (s, none) => if last = "." then (s, none) else s.makeLast mayExist path

/-- Make a directory and those above it that do not exist. -/
def makeDirectories (s : Store) (path : String) (mayExist : Bool) : Store × Option Fault :=
  makeAll mayExist path.length s path

end Store
end SampleSchema.Files
