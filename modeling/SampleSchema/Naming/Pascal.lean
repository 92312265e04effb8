import SampleSchema.Text.Casing
/-!
Pascal case. A word in snake case is split at its underscores; any other word
is split at its humps, and characters that fit no hump are left out. A leading
underscore and the dots between words are kept.
-/

namespace SampleSchema.Naming

open SampleSchema.Text

/-- Split at every occurrence of a separator. The result is never empty. -/
def splitAll (separator : Char) : List Char → List (List Char)
  | [] => [[]]
  | c :: rest =>
      match splitAll separator rest with
      | [] => [[c]]
      | word :: words =>
          if c = separator then [] :: word :: words else (c :: word) :: words

def isHumpTail (c : Char) : Bool := c.isLower || c.isDigit

/-- Put a run of small letters and digits that follows no capital letter in
front of the humps after it. It is a hump of its own if `looseHumps`, and left
out otherwise. -/
def addLoose (looseHumps : Bool) (run : List Char) (later : List (List Char)) :
    List (List Char) :=
  if looseHumps && !run.isEmpty then run :: later else later

/-- The run of small letters and digits at the front of a word, and the humps
after it. A capital letter starts a hump and takes the run after it; a character
that fits no hump is left out. -/
def runAndHumps (looseHumps : Bool) : List Char → List Char × List (List Char)
  | [] => ([], [])
  | c :: rest =>
      let (run, later) := runAndHumps looseHumps rest
      if isHumpTail c then (c :: run, later)
      else if c.isUpper then ([], (c :: run) :: later)
      else ([], addLoose looseHumps run later)

def humps (looseHumps : Bool) (word : List Char) : List (List Char) :=
  let (run, later) := runAndHumps looseHumps word
  addLoose looseHumps run later

/-- The parts that a word without dots is made of. -/
def parts (word : List Char) : List (List Char) :=
  if word.contains '_' then splitAll '_' word
  else match word with
    | [] => []
    | c :: _ => humps (!isUpper c) word

def pascalWord (word : List Char) : List Char :=
  let joined := (parts word).flatMap capitalize
  if word.head? = some '_' then '_' :: joined else joined

def pascalChars (s : List Char) : List Char :=
  List.intercalate ['.'] ((splitAll '.' s).map pascalWord)

def pascal (s : String) : String := String.ofList (pascalChars s.toList)

def upperFirst (s : String) : String := String.ofList (Text.upperFirst s.toList)

def lowerFirst (s : String) : String := String.ofList (Text.lowerFirst s.toList)

end SampleSchema.Naming
