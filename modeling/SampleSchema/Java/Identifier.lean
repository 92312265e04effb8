/-!
Java identifiers: a letter, an underscore or a dollar sign, then any number of
these and digits, all ASCII, and no reserved word.
-/

namespace SampleSchema.Java

/-- The words that cannot be names, and those that are best not used as names. -/
def reservedWords : List String :=
  ["abstract", "assert", "boolean", "break", "byte", "case", "catch", "char", "class",
    "const", "continue", "default", "do", "double", "else", "enum", "extends", "final",
    "finally", "float", "for", "goto", "if", "implements", "import", "instanceof", "int",
    "interface", "long", "native", "new", "package", "private", "protected", "public",
    "return", "short", "static", "strictfp", "super", "switch", "synchronized", "this",
    "throw", "throws", "transient", "try", "void", "volatile", "while", "true", "false",
    "null", "record", "_"]

def isReserved (word : String) : Bool := reservedWords.contains word

def isNameStart (c : Char) : Bool := c.isAlpha || c == '_' || c == '$'

def isNamePart (c : Char) : Bool := c.isAlphanum || c == '_' || c == '$'

def isName : List Char → Bool
  | [] => false
  | c :: rest => isNameStart c && rest.all isNamePart

/-- The characters without a line feed at their end. -/
def dropFinalBreak (s : List Char) : List Char :=
  if s.getLast? = some '\n' then s.dropLast else s

/-- The test for identifiers. It passes over a line feed at the end of the word,
but a reserved word is only recognised without one. -/
def isIdentifier (word : String) : Bool :=
  isName (dropFinalBreak word.toList) && !isReserved word

end SampleSchema.Java
