import SampleSchema.Text.Quoted
/-!
A tree of directories and files, as far as a program can see it: paths are
looked up from a working directory, files are read and written as bytes, and
directories are made. Every operation that can fail tells why and for which path.
-/

namespace SampleSchema.Files

open Text

inductive Node where
  | directory
  | file (bytes : List UInt8)
  deriving DecidableEq, Repr

/-- The names from the working directory to a node. A location below the root
starts with the name `/`, and one outside the working directory with a `..` for
each directory to go up. -/
abbrev Location := List String

namespace Location

/-- The names of which a location consists that is known to be a directory: the
working directory, those above it and the root. -/
def isAnchor (l : Location) : Bool := l.all fun name => name == ".." || name == "/"

/-- The directory above a directory. The root is above itself. -/
def above (l : Location) : Location :=
  match l.getLast? with
  | none => [".."]
  | some "/" => l
  | some ".." => l ++ [".."]
  | some _ => l.dropLast

def path (l : Location) : String :=
  match l with
  | "/" :: rest => "/" ++ "/".intercalate rest
  | names => "/".intercalate names

end Location

/-- The files and directories that are known. The working directory, those above
it and the root are always there. -/
structure Store where
  entries : List (Location × Node) := []
  deriving DecidableEq, Repr

inductive Cause where
  | notFound
  | fileExists
  | notDirectory
  | isDirectory
  deriving DecidableEq, Repr

namespace Cause

/-- The number that systems give to a cause. -/
def number : Cause → Nat
  | notFound => 2
  | fileExists => 17
  | notDirectory => 20
  | isDirectory => 21

def describe : Cause → String
  | notFound => "No such file or directory"
  | fileExists => "File exists"
  | notDirectory => "Not a directory"
  | isDirectory => "Is a directory"

end Cause

structure Fault where
  cause : Cause
  path : String
  deriving DecidableEq, Repr

def Fault.message (f : Fault) : String :=
  "[Errno " ++ toString f.cause.number ++ "] " ++ f.cause.describe ++ ": "
    ++ Quoted.quote f.path

inductive Target where
  /-- To a directory, as a path that ends in `.` or `..` does. -/
  | directory (here : Location)
  /-- To a name in a directory that exists. A slash after the name asks for a
  directory. -/
  | entry (parent : Location) (name : String) (slash : Bool)
  deriving DecidableEq, Repr

/-- The names in a path, without empty ones. -/
def pathNames : List Char → List Char → List String
  | [], current => if current.isEmpty then [] else [String.ofList current.reverse]
  | '/' :: rest, current =>
      if current.isEmpty then pathNames rest []
      else String.ofList current.reverse :: pathNames rest []
  | c :: rest, current => pathNames rest (c :: current)

namespace Store

def node? (s : Store) (location : Location) : Option Node :=
  if location.isAnchor then some .directory
  else (s.entries.find? fun e => e.1 == location).map (·.2)

def set (s : Store) (location : Location) (node : Node) : Store :=
  if s.entries.any (fun e => e.1 == location) then
    ⟨s.entries.map fun e => if e.1 == location then (location, node) else e⟩
  else ⟨s.entries ++ [(location, node)]⟩

def erase (s : Store) (location : Location) : Store :=
  ⟨s.entries.filter fun e => e.1 != location⟩

/-- Go from a directory to one of its directories. -/
def enter (s : Store) (here : Location) (name : String) : Except Cause Location :=
  if name = "." then .ok here
  else if name = ".." then .ok here.above
  else match s.node? (here ++ [name]) with
    | some .directory => .ok (here ++ [name])
    | some (.file _) => .error .notDirectory
    | none => .error .notFound

/-- Follow names from a directory. All but the last have to be directories. -/
def follow (s : Store) (slash : Bool) (here : Location) : List String → Except Cause Target
  | [] => .ok (.directory here)
  | [name] =>
      if name = "." ∨ name = ".." then (s.enter here name).map .directory
      else .ok (.entry here name slash)
  | name :: rest => do
      let next ← s.enter here name
      s.follow slash next rest

def locate (s : Store) (path : String) : Except Cause Target :=
  let chars := path.toList
  if chars.isEmpty then .error .notFound
  else
    let start := if chars.head? = some '/' then ["/"] else []
    s.follow (chars.getLast? = some '/') start (pathNames chars [])

/-- What a path leads to, if it leads anywhere. -/
def lookup? (s : Store) (path : String) : Option Node :=
  match s.locate path with
  | .ok (.directory _) => some .directory
  | .ok (.entry parent name slash) =>
      match s.node? (parent ++ [name]) with
      | some (.file bytes) => if slash then none else some (.file bytes)
      | found => found
  | .error _ => none

def pathExists (s : Store) (path : String) : Bool := (s.lookup? path).isSome

def isDirectory (s : Store) (path : String) : Bool := s.lookup? path == some .directory

def readBytes (s : Store) (path : String) : Except Fault (List UInt8) :=
  match s.locate path with
  | .error cause => .error ⟨cause, path⟩
  | .ok (.directory _) => .error ⟨.isDirectory, path⟩
  | .ok (.entry parent name slash) =>
      match s.node? (parent ++ [name]) with
      | none => .error ⟨.notFound, path⟩
      | some .directory => .error ⟨.isDirectory, path⟩
      | some (.file bytes) => if slash then .error ⟨.notDirectory, path⟩ else .ok bytes

def writeBytes (s : Store) (path : String) (bytes : List UInt8) : Except Fault Store :=
  match s.locate path with
  | .error cause => .error ⟨cause, path⟩
  | .ok (.directory _) => .error ⟨.isDirectory, path⟩
  | .ok (.entry parent name slash) =>
      if slash then .error ⟨.isDirectory, path⟩
      else match s.node? (parent ++ [name]) with
        | some .directory => .error ⟨.isDirectory, path⟩
        | _ => .ok (s.set (parent ++ [name]) (.file bytes))

def removeFile (s : Store) (path : String) : Store :=
  match s.locate path with
  | .ok (.entry parent name _) => s.erase (parent ++ [name])
  | _ => s

def makeDirectory (s : Store) (path : String) : Except Fault Store :=
  match s.locate path with
  | .error cause => .error ⟨cause, path⟩
  | .ok (.directory _) => .error ⟨.fileExists, path⟩
  | .ok (.entry parent name _) =>
      match s.node? (parent ++ [name]) with
      | some _ => .error ⟨.fileExists, path⟩
      | none => .ok (s.set (parent ++ [name]) .directory)

end Store
end SampleSchema.Files
