import SampleSchema.CommandLine.Demand
/-!
One run of the program whose standard input is bytes. They are read as strict UTF-8 with
their line ends turned into line feeds, once the file that they are copied to has been made.
-/

namespace SampleSchema.CommandLine

open Files Text

/-- What a run leaves behind that finds no text on the standard input. It ends before it has
a file for its output. -/
def stopAtInput (setting : Setting) (fault : Utf8.Fault) : Session :=
  { ending := .unhandled (.encoding fault)
    store := removeFiles (createTemporary setting.store setting.temporaryInput "")
      [setting.temporaryInput] }

/-- Run the program with these bytes on the standard input. A run that does not read them
does not notice what they are. -/
def runBytes (setting : Setting) (stdin : List UInt8) (arguments : List String) : Session :=
  match Utf8.decode stdin with
  | .ok chars => run { setting with stdin := String.ofList (lineFeedsOnly chars) } arguments
  | .error fault =>
      if (Demand.ofArguments arguments).standardInput then stopAtInput setting fault
      else run setting arguments

end SampleSchema.CommandLine
