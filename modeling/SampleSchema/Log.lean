import SampleSchema.Schema.FieldType
/-!
What the program reports while it works, as a list of events. Each event has a
level, the name of the part that reports it and a message.
-/

namespace SampleSchema

open Schema Text

inductive Event where
  /-- A class was created. -/
  | created (className : Points)
  /-- A further object goes into a class that exists. -/
  | merged (className : Points)
  /-- A concrete type was kept although a fallback was seen after it. -/
  | kept (className property : Points) (type offered : FieldType)
  /-- A field took another type. -/
  | changed (className property : Points) (before after : FieldType)
  /-- A document was walked to its end. -/
  | inferred (classes : Nat) (root : Points)
  /-- A class was left out because its Java name is taken. -/
  | collided (first second : Points) (javaName : String)
  /-- The Java files were written. -/
  | wrote (files : Nat) (directory : String)
  deriving DecidableEq, Repr

inductive Level where
  | debug
  | info
  | warning
  deriving DecidableEq, Repr

namespace Level

def name : Level → String
  | debug => "DEBUG"
  | info => "INFO"
  | warning => "WARNING"

def rank : Level → Nat
  | debug => 0
  | info => 1
  | warning => 2

end Level

namespace Event

/-- A change between two concrete types loses one of them and is a warning. -/
def level : Event → Level
  | created _ => .debug
  | merged _ => .debug
  | kept .. => .debug
  | changed _ _ before after =>
      if before.isFallback || after.isFallback then .debug else .warning
  | inferred .. => .info
  | collided .. => .warning
  | wrote .. => .info

def logger : Event → String
  | created _ => "pojotize.schema_builder"
  | merged _ => "pojotize.schema_builder"
  | kept .. => "pojotize.schema_builder"
  | changed .. => "pojotize.schema_builder"
  | inferred .. => "pojotize.jsontopojo"
  | collided .. => "pojotize.modeltojava"
  | wrote .. => "pojotize.modeltojava"

def message : Event → Points
  | created c => "Created class " ++ c
  | merged c => "Merging fields into existing class " ++ c
  | kept c p type offered =>
      "Keeping " ++ c ++ "." ++ p ++ " as " ++ type.describe ++ " over " ++ offered.describe
  | changed c p before after =>
      "Field " ++ c ++ "." ++ p ++ " changes type from " ++ before.describe ++ " to "
        ++ after.describe
  | inferred n root => "Inferred " ++ toString n ++ " classes for " ++ root
  | collided first second javaName =>
      "Classes " ++ first ++ " and " ++ second ++ " both map to Java class " ++ javaName
        ++ "; keeping the first"
  | wrote n directory => "Wrote " ++ toString n ++ " Java classes to " ++ directory

def line (e : Event) : Points := e.level.name ++ " " ++ e.logger ++ ": " ++ e.message

end Event
end SampleSchema
