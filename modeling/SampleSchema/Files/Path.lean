/-!
Paths as texts. A path is a sequence of names with slashes between them; these
functions only look at its characters.
-/

namespace SampleSchema.Files.Path

/-- A path up to and including its last slash, and what follows. -/
def cutAtLastSlash (path : List Char) : List Char × List Char :=
  let name := (path.reverse.takeWhile (· != '/')).reverse
  (path.take (path.length - name.length), name)

/-- A path without the slashes at its end, unless it consists of slashes. -/
def trimSlashes (path : List Char) : List Char :=
  if path.all (· == '/') then path else (path.reverse.dropWhile (· == '/')).reverse

def split (path : String) : String × String :=
  let (directory, name) := cutAtLastSlash path.toList
  (String.ofList (trimSlashes directory), String.ofList name)

def directory (path : String) : String := (split path).1

/-- What follows the last slash of a path. -/
def name (path : String) : String := (split path).2

/-- A path below another one. A path that starts with a slash stands alone. -/
def join (base path : String) : String :=
  if path.toList.head? = some '/' then path
  else if base.isEmpty || base.toList.getLast? = some '/' then base ++ path
  else base ++ "/" ++ path

/-- The paths that a path passes through, from the outermost on. The last of them
is the path itself. -/
def passed (path : String) : List String :=
  let s := path.toList
  let cuts := (List.range s.length).filter fun i => 0 < i && s[i]? == some '/'
  (cuts ++ [s.length]).map fun i => String.ofList (s.take i)

/-- A file name without its extension, which starts at the last dot that has
another character than a dot before it. -/
def stem (name : String) : String :=
  let s := name.toList
  let extension := (s.reverse.takeWhile (· != '.')).reverse
  let before := s.take (s.length - extension.length - 1)
  if s.contains '.' && !before.all (· == '.') then String.ofList before else name

end SampleSchema.Files.Path
