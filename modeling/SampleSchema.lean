import SampleSchema.CommandLine.Table
import SampleSchema.Main
import SampleSchema.Proofs.Infer.History
import SampleSchema.Proofs.Infer.Closure
import SampleSchema.Proofs.Infer.Content
import SampleSchema.Proofs.Infer.LastVisit
import SampleSchema.Proofs.Infer.Conflict
import SampleSchema.Proofs.Infer.Strict
import SampleSchema.Proofs.Infer.Nulls
import SampleSchema.Proofs.Infer.Reorder
import SampleSchema.Proofs.Infer.Shape
import SampleSchema.Proofs.Infer.Reuse
import SampleSchema.Proofs.Infer.Operations
import SampleSchema.Proofs.Java.Numbering
import SampleSchema.Proofs.Text.Ascii
import SampleSchema.Proofs.Java.Identifier
import SampleSchema.Proofs.Java.Members
import SampleSchema.Proofs.Java.ClassName
import SampleSchema.Proofs.Java.Literal
import SampleSchema.Proofs.Java.Lines
import SampleSchema.Proofs.Java.Reading
import SampleSchema.Proofs.Java.Imports
import SampleSchema.Proofs.Java.Spelling
import SampleSchema.Proofs.Java.Capture
import SampleSchema.Proofs.Files.Path
import SampleSchema.Proofs.Files.Store
import SampleSchema.Proofs.Convert.JavaFiles
import SampleSchema.Proofs.Text.Utf8
import SampleSchema.Proofs.Json.Strings
import SampleSchema.Proofs.Json.Printing
import SampleSchema.Proofs.Json.RoundTrip
import SampleSchema.Proofs.Schema.Export
import SampleSchema.Proofs.Convert.ModelFile
import SampleSchema.Proofs.Files.Beside
import SampleSchema.Proofs.Files.Writing
import SampleSchema.Proofs.Convert.Beside
import SampleSchema.Proofs.Json.LongIntegers
import SampleSchema.Proofs.Convert.Errors
import SampleSchema.Proofs.Convert.Rejection
import SampleSchema.Proofs.CommandLine.Jobs
import SampleSchema.Proofs.CommandLine.Routes
import SampleSchema.Proofs.CommandLine.InputRoutes
import SampleSchema.Proofs.CommandLine.OutputRoutes
import SampleSchema.Proofs.CommandLine.Temporary
import SampleSchema.Proofs.CommandLine.Runs
import SampleSchema.Proofs.CommandLine.CleanUp
import SampleSchema.Proofs.CommandLine.Tables
import SampleSchema.Proofs.CommandLine.Shares
import SampleSchema.Proofs.CommandLine.Uses
import SampleSchema.Proofs.CommandLine.Reading
import SampleSchema.Proofs.CommandLine.Programs
import SampleSchema.Proofs.CommandLine.Assignments
import SampleSchema.CommandLine.CommandTable
import SampleSchema.Proofs.Files.Directories
import SampleSchema.Proofs.Convert.FirstClasses
