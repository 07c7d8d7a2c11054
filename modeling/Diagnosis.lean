import Diagnosis.App
import Diagnosis.Main
import Diagnosis.Proofs.Engine.Pass
import Diagnosis.Proofs.Engine.Turn
import Diagnosis.Proofs.Engine.Move
import Diagnosis.Proofs.Engine.Registry
import Diagnosis.Proofs.Engine.Supersession
import Diagnosis.Proofs.Engine.Publication
import Diagnosis.Proofs.Engine.LastTrigger
import Diagnosis.Proofs.Text.Cut
import Diagnosis.Proofs.Address
import Diagnosis.Proofs.FileTree.Resolve
import Diagnosis.Proofs.Engine.Reread
import Diagnosis.Proofs.Engine.Freshness
import Diagnosis.Proofs.Engine.Mirror
import Diagnosis.Proofs.Engine.Isolation
import Diagnosis.Proofs.Encoding.Refusal
import Diagnosis.Proofs.Report
import Diagnosis.Proofs.Pattern.Repetition
import Diagnosis.Proofs.Block
import Diagnosis.Proofs.Pattern.Order
import Diagnosis.Proofs.Partition
import Diagnosis.Proofs.Text.Numeral
import Diagnosis.Proofs.Gcc.Location
import Diagnosis.Proofs.Gcc.Heading
import Diagnosis.Proofs.Gcc.Relocation
import Diagnosis.Proofs.Gcc.Entry
import Diagnosis.Proofs.Gcc.Message
import Diagnosis.Proofs.Engine.Ending
import Diagnosis.Proofs.Engine.Waiting
import Diagnosis.Proofs.Engine.Outcome
import Diagnosis.Proofs.CommandLine.Opening
import Diagnosis.Proofs.CommandLine.Gathering
import Diagnosis.Proofs.CommandLine.Once
import Diagnosis.Proofs.CommandLine.Exit
import Diagnosis.Proofs.Console
import Diagnosis.Proofs.CommandLine.Output
import Diagnosis.Proofs.Document
import Diagnosis.Proofs.Settings.Watched
import Diagnosis.Proofs.Settings.Layer
import Diagnosis.Proofs.Settings.Slots
import Diagnosis.Proofs.Settings.Stack
import Diagnosis.Proofs.FileTree.Contents
import Diagnosis.Proofs.Engine.Forgetful
import Diagnosis.Proofs.Engine.Frame
import Diagnosis.Proofs.Engine.Transparency
import Diagnosis.Proofs.Engine.Deeds
import Diagnosis.Proofs.Engine.Children
import Diagnosis.Proofs.Result
import Diagnosis.Proofs.Json.Fields
import Diagnosis.Proofs.Number.Nearest
import Diagnosis.Proofs.Number.Shortest
import Diagnosis.Proofs.Json.Numbers
import Diagnosis.Proofs.Json.RoundTrip
import Diagnosis.Proofs.Json.Ascii
import Diagnosis.Proofs.Json.Readable
import Diagnosis.Proofs.FileTree.Write
import Diagnosis.Proofs.Settings.Nesting
import Diagnosis.Proofs.Settings.Merging
import Diagnosis.Proofs.Settings.Completion
import Diagnosis.Proofs.Settings.Flattening
import Diagnosis.Proofs.Settings.Saved
import Diagnosis.Proofs.Settings.Persistence
import Diagnosis.Proofs.Settings.Assignment
import Diagnosis.Proofs.Text.Sorted
import Diagnosis.Proofs.FileTree.Rooted
import Diagnosis.Proofs.FileTree.Arrival
import Diagnosis.Proofs.FileTree.Standing
import Diagnosis.Proofs.Uri.File
import Diagnosis.Proofs.Engine.Home
import Diagnosis.Proofs.Display.Problems
import Diagnosis.Proofs.Engine.Course
import Diagnosis.Proofs.App.Move
import Diagnosis.Proofs.App.Course
import Diagnosis.Proofs.App.Delivery
import Diagnosis.Proofs.App.View
import Diagnosis.Proofs.App.Status
import Diagnosis.Proofs.Engine.Reach
import Diagnosis.Proofs.App.Reach
import Diagnosis.Proofs.Pattern.Steps
import Diagnosis.Proofs.Pattern.Enclosed
import Diagnosis.Proofs.Pattern.Pieces
import Diagnosis.Proofs.Pattern.Constructs
import Diagnosis.Proofs.Pattern.Grammar
import Diagnosis.Proofs.Pattern.Options
import Diagnosis.Proofs.Delimiter
import Diagnosis.Proofs.Range
import Diagnosis.Proofs.Settings.Folders
import Diagnosis.Proofs.Compiler.Run
import Diagnosis.Proofs.Pattern.Excess
import Diagnosis.Proofs.Pattern.Refusal
import Diagnosis.Proofs.Record
import Diagnosis.Proofs.Watch
import Diagnosis.Proofs.Watch.Configured
import Diagnosis.Proofs.Diagnostic
