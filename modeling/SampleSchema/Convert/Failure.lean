import SampleSchema.Infer.Build
import SampleSchema.Json.Fault
import SampleSchema.Files.Text
/-!
Why a conversion fails. A failure has a message and, if it was found in the
document, the class or the root name that it belongs to.
-/

namespace SampleSchema.Convert

open Text

inductive Failure where
  /-- The document gives no classes. -/
  | schema (fault : Infer.Fault)
  /-- The text is no JSON. -/
  | malformed (root : String) (cause : Json.Cause) (place : Position)
  /-- The text is nested too deeply. -/
  | tooDeep (root : String)
  /-- An integer in the text has too many digits. -/
  | longInteger (digits : Nat)
  | file (fault : Files.Fault)
  /-- A file is no text. -/
  | encoding (fault : Utf8.Fault)
  /-- What is to be written or printed is no string. -/
  | unencodable (fault : Utf8.EncodeFault)
  /-- A conversion was called without something it needs. -/
  | missingArgument (function argument : String)
  /-- A conversion needs a text and was called with a value of this kind. -/
  | noText (kind : String)
  deriving DecidableEq, Repr

namespace Failure

def description : Failure → Points
  | schema fault => fault.message
  | malformed _ cause place =>
      "Invalid JSON: " ++ cause.message ++ " at line " ++ toString place.line ++ " column "
        ++ toString place.column
  | tooDeep _ => "Invalid JSON: document is nested too deeply to parse"
  | longInteger digits => Json.longIntegerMessage digits
  | file fault => fault.message
  | encoding fault => fault.message
  | unencodable fault => fault.message
  | missingArgument function argument =>
      function ++ "() missing 1 required positional argument: '" ++ argument ++ "'"
  | noText kind => "'" ++ kind ++ "' object has no attribute 'replace'"

def context? : Failure → Option Points
  | schema fault => fault.context?
  | malformed root _ _ => some root
  | tooDeep root => some root
  | longInteger _ => none
  | file _ => none
  | encoding _ => none
  | unencodable _ => none
  | missingArgument _ _ => none
  | noText _ => none

/-- What went wrong, and where unless the name of the place is empty. -/
def message (f : Failure) : Points :=
  match f.context? with
  | none => f.description
  | some context =>
      if context.isEmpty then f.description
      else f.description ++ " (context: " ++ context ++ ")"

/-- Failures that the command line reports. It does not survive the others. -/
def isReported : Failure → Bool
  | schema _ => true
  | malformed .. => true
  | tooDeep _ => true
  | file _ => true
  | longInteger _ => false
  | encoding _ => false
  | unencodable _ => false
  | missingArgument .. => false
  | noText _ => false

end Failure

def Failure.ofRead : Files.ReadFault → Failure
  | .file fault => .file fault
  | .encoding fault => .encoding fault

def Failure.ofWrite : Files.WriteFault → Failure
  | .file fault => .file fault
  | .encoding fault => .unencodable fault

def Failure.ofJson (root text : String) : Json.Fault → Failure
  | .malformed cause rest => .malformed root cause (.ofRest text.toList rest)
  | .tooDeep => .tooDeep root
  | .longInteger digits => .longInteger digits

end SampleSchema.Convert
