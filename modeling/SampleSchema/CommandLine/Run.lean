import SampleSchema.CommandLine.Program
import SampleSchema.CommandLine.Help
import SampleSchema.Convert.JavaFiles
import SampleSchema.Convert.ModelFile
/-!
One run of the program, from its arguments to what it prints and leaves in the
file store.

A document that is not read from a file is copied from the standard input to a
temporary file. A command without an output path writes to another temporary
file, which is then printed. Both files are removed at the end, whatever
happens before.

The standard output is strict UTF-8. On the standard error output, halves of
surrogate pairs are escaped.
-/

namespace SampleSchema.CommandLine

open Json Files Text SampleSchema.Convert

structure Setting where
  store : Store
  /-- The text on the standard input. -/
  stdin : String
  /-- The paths that can be used for temporary files. -/
  temporaryInput : String
  temporaryOutput : String

inductive Ending where
  /-- With this exit status. -/
  | status (code : Nat)
  /-- With a failure that it does not handle. -/
  | unhandled (failure : Failure)
  /-- With arguments that it does not accept. -/
  | refused (reason : Refusal)
  deriving DecidableEq, Repr

structure Session where
  ending : Ending
  stdout : String := ""
  log : Array Event := #[]
  /-- Whether all events are logged, and not only warnings. -/
  verbose : Bool := false
  store : Store

namespace Session

/-- The lines of the log on the standard error output. -/
def stderr (s : Session) : String :=
  let threshold : Level := if s.verbose then .debug else .warning
  String.join ((s.log.toList.filter fun e => threshold.rank ≤ e.level.rank).map
    (·.line.escaped ++ "\n"))

def exitCode (s : Session) : Nat :=
  match s.ending with
  | .status code => code
  | .unhandled _ => 1
  | .refused _ => 2

/-- What is said on the standard error output about arguments that are not
accepted and failures that are not handled. -/
def complaint (s : Session) : String :=
  match s.ending with
  | .status _ => ""
  | .unhandled failure => failure.message.escaped ++ "\n"
  | .refused reason => "pojotize: error: " ++ reason.message ++ "\n"

end Session

/-! ## Jobs -/

structure JobOutcome where
  failure : Option Failure
  store : Store
  log : Array Event := #[]

def argumentAt (slot : Slot) (arguments : List (Slot × Value)) : Option Value :=
  arguments.lookup slot

def textAt (slot : Slot) (arguments : List (Slot × Value)) : String :=
  match argumentAt slot arguments with
  | some (.string s) => s
  | _ => ""

def kindName : Value → String
  | .null => "NoneType"
  | .bool _ => "bool"
  | .int _ => "int"
  | .float _ => "float"
  | .string _ => "str"
  | .array _ => "list"
  | .object _ => "dict"

/-- The package that is asked for, if it is a text. -/
def packageAt (arguments : List (Slot × Value)) : Except Failure String :=
  match argumentAt .package arguments with
  | none => .ok ""
  | some (.string s) => .ok s
  | some v => .error (.noText (kindName v))

def truthAt (slot : Slot) (default : Bool) (arguments : List (Slot × Value)) : Bool :=
  match argumentAt slot arguments with
  | some v => isTruthy v
  | none => default

namespace Job

/-- The function that a job stands for in messages, and what it calls its output. -/
def signature : Job → String × String
  | javaFiles => ("convert_json_to_pojo", "output_dir")
  | modelFile => ("convert_json_to_model", "model_file_path")

/-- The style that the arguments of a job ask for, besides the package. -/
def style (package : String) (arguments : List (Slot × Value)) : Java.Style where
  package
  memberPrefix := truthAt .memberPrefix true arguments
  alwaysExpose := truthAt .alwaysExpose false arguments

/-- Perform a job with an output path. A package that is no text is noticed when the
first class is to be written. -/
def performTo (job : Job) (out : String) (arguments : List (Slot × Value)) (store : Store) :
    JobOutcome :=
  let strict := truthAt .strict false arguments
  let root := textAt .root arguments
  let input := textAt .input arguments
  match job with
  | javaFiles =>
      match packageAt arguments with
      | .ok package =>
          let outcome := jsonToJava strict (style package arguments) root input out store
          { failure := match outcome.result with
              | .ok _ => none
              | .error f => some f
            store := outcome.store, log := outcome.log }
      | .error failure =>
          let inference := inferFile strict root input store
          { failure := match inference.result with
              | .ok _ => some failure
              | .error f => some f
            store, log := inference.log }
  | modelFile =>
      let outcome := jsonToModel strict root input out store
      { failure := match outcome.result with
          | .ok _ => none
          | .error f => some f
        store := outcome.store, log := outcome.log }

def perform (job : Job) (arguments : List (Slot × Value)) (store : Store) : JobOutcome :=
  match argumentAt .output arguments with
  | some (.string out) => job.performTo out arguments store
  | _ =>
      { failure := some (.missingArgument job.signature.1 job.signature.2), store }

end Job

/-! ## The routes of input and output -/

/-- Where a command reads from and writes to. -/
structure Route where
  input : String
  /-- The path of the output. An option that is given nothing but the separator
  has the empty list for its value, which is no path. -/
  output : Value
  /-- The output is printed and not kept. -/
  captured : Bool
  /-- The values of the parameters, with the root name for unnamed input. -/
  values : List (String × Value)
  store : Store
  /-- The temporary files. -/
  temporary : List String

def createTemporary (store : Store) (path text : String) : Store := (store.writeText path text).1

def isSet (key : String) (values : List (String × Value)) : Bool :=
  ((member? key values).map isTruthy).getD false

/-- The root name for input from the standard input. -/
def nameUnnamed (values : List (String × Value)) : List (String × Value) :=
  if isSet "root" values then values
  else putMember "root" (.string defaultRoot) values

/-- Find the input, or make it of the standard input. -/
def routeInput (setting : Setting) (values : List (String × Value)) : Route :=
  let route : Route :=
    { input := "", output := .null, captured := false, values, store := setting.store,
      temporary := [] }
  match member? "input" values with
  | some (.string path) => { route with input := path }
  | _ =>
      { route with
        input := setting.temporaryInput
        values := nameUnnamed values
        store := createTemporary setting.store setting.temporaryInput setting.stdin
        temporary := [setting.temporaryInput] }

/-- Find the output, or make a file that captures it. -/
def routeOutput (setting : Setting) (route : Route) : Route :=
  match (member? "out" route.values).getD .null with
  | .null =>
      { route with
        output := .string setting.temporaryOutput
        captured := true
        store := createTemporary route.store setting.temporaryOutput ""
        temporary := route.temporary ++ [setting.temporaryOutput] }
  | value => { route with output := value }

def route (setting : Setting) (values : List (String × Value)) : Route :=
  routeOutput setting (routeInput setting values)

def removeFiles (store : Store) (paths : List String) : Store :=
  paths.foldl (fun s path => s.removeFile path) store

/-! ## The run -/

def pathText : Value → String
  | .string path => path
  | _ => "[]"

def announcement (verb : Verb) (route : Route) : String :=
  "Executing " ++ verb.description ++ " with input " ++ route.input ++ " and output "
    ++ pathText route.output ++ "\n"

/-- How a run ends that meets a failure. Where the failure is to be reported, its
message has to be a string. -/
def Ending.ofFailure (failure : Failure) : Ending :=
  if failure.isReported then
    match Utf8.encodePoints failure.message with
    | .ok _ => .status 1
    | .error fault => .unhandled (.unencodable fault)
  else .unhandled failure

/-- The line that reports a failure. Only its beginning is printed if the message is no
string. -/
def errorLine (failure : Failure) : String :=
  if failure.message.isString then "Error:  " ++ failure.message.shown ++ "\n" else "Error:  "

def report (failure : Failure) : String := if failure.isReported then errorLine failure else ""

def conclude (captured : Bool) (output : String) (outcome : JobOutcome) : Ending × String :=
  match outcome.failure with
  | some failure => (.ofFailure failure, report failure)
  | none =>
      if captured then
        match outcome.store.readText output with
        | .ok text => (.status 0, text)
        | .error fault => (.ofFailure (.ofRead fault), report (.ofRead fault))
      else (.status 0, "")

def runAlong (verb : Verb) (verbose : Bool) (route : Route) : Session :=
  let arguments :=
    bindArguments verb.bindings route.values (.string route.input) route.output
  let announced := if route.captured then "" else announcement verb route
  let outcome := verb.job.perform arguments route.store
  let (ending, printed) := conclude route.captured (pathText route.output) outcome
  { ending, stdout := announced ++ printed, log := outcome.log, verbose,
    store := removeFiles outcome.store route.temporary }

def runValues (setting : Setting) (values : List (String × Value)) : Session :=
  if isSet "version" values then
    { ending := .status 0, stdout := versionLine, store := setting.store }
  else match member? commandKey values with
    | some (.string name) =>
        match verbs.find? (·.name == name) with
        | some verb => runAlong verb (isSet "verbose" values) (route setting values)
        | none => { ending := .refused (.invalidChoice commandKey), store := setting.store }
    | _ => { ending := .status 0, stdout := Help.program, store := setting.store }

def run (setting : Setting) (arguments : List String) : Session :=
  match parseArguments arguments with
  | .ok values => runValues setting values
  | .error (.help command) =>
      { ending := .status 0, stdout := Help.of command, store := setting.store }
  | .error (.refused reason) => { ending := .refused reason, store := setting.store }

end SampleSchema.CommandLine
