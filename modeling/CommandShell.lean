import CommandShell.Builtin.Command
import CommandShell.Builtin.Job
import CommandShell.Builtin.Name
import CommandShell.Builtin.Run
import CommandShell.CommandLine.LogFilter
import CommandShell.CommandLine.Program
import CommandShell.Completion
import CommandShell.Engine.Line
import CommandShell.Engine.Outlet
import CommandShell.Engine.Pipeline
import CommandShell.Engine.Single
import CommandShell.Engine.Wait
import CommandShell.Environment
import CommandShell.Failure
import CommandShell.FieldPattern.Check
import CommandShell.FieldPattern.Fault
import CommandShell.FieldPattern.Reader
import CommandShell.FieldPattern.Tree
import CommandShell.FileSystem.Access
import CommandShell.FileSystem.Fault
import CommandShell.FileSystem.Node
import CommandShell.FileSystem.Walk
import CommandShell.History
import CommandShell.Inherited
import CommandShell.Machine.Activity
import CommandShell.Machine.ByteClass
import CommandShell.Machine.ByteText
import CommandShell.Machine.Call
import CommandShell.Machine.Choice
import CommandShell.Machine.Conversion
import CommandShell.Machine.FirstLine
import CommandShell.Machine.Floating
import CommandShell.Machine.Install
import CommandShell.Machine.Launch
import CommandShell.Machine.NameQuoting
import CommandShell.Machine.Regex
import CommandShell.Machine.Regex.Reader
import CommandShell.Machine.Schedule
import CommandShell.Machine.Script.Arithmetic
import CommandShell.Machine.Script.Builtin.Aliases
import CommandShell.Machine.Script.Builtin.Finding
import CommandShell.Machine.Script.Builtin.Jobs
import CommandShell.Machine.Script.Builtin.Letters
import CommandShell.Machine.Script.Builtin.Mask
import CommandShell.Machine.Script.Builtin.Place
import CommandShell.Machine.Script.Builtin.Signals
import CommandShell.Machine.Script.Builtin.Variables
import CommandShell.Machine.Script.Builtin.Writing
import CommandShell.Machine.Script.Context
import CommandShell.Machine.Script.Evaluation
import CommandShell.Machine.Script.Examination
import CommandShell.Machine.Script.Expansion
import CommandShell.Machine.Script.Field
import CommandShell.Machine.Script.Glob
import CommandShell.Machine.Script.Job
import CommandShell.Machine.Script.Reader
import CommandShell.Machine.Script.Redirecting
import CommandShell.Machine.Script.Runner
import CommandShell.Machine.Script.Source
import CommandShell.Machine.Script.Start
import CommandShell.Machine.Script.State
import CommandShell.Machine.Script.Token
import CommandShell.Machine.Script.Tree
import CommandShell.Machine.Switches
import CommandShell.Machine.Tool
import CommandShell.Machine.Utility.Amount
import CommandShell.Machine.Utility.Cat
import CommandShell.Machine.Utility.Count
import CommandShell.Machine.Utility.Edit
import CommandShell.Machine.Utility.Edit.Reader
import CommandShell.Machine.Utility.Edit.Script
import CommandShell.Machine.Utility.Edit.Text
import CommandShell.Machine.Utility.Ends
import CommandShell.Machine.Utility.Flood
import CommandShell.Machine.Utility.Order
import CommandShell.Machine.Utility.Pause
import CommandShell.Machine.Utility.Printf
import CommandShell.Machine.Utility.Sort
import CommandShell.Machine.Utility.Translate
import CommandShell.Machine.World
import CommandShell.Main
import CommandShell.Options
import CommandShell.Path
import CommandShell.Proofs.Accumulating
import CommandShell.Proofs.Alone
import CommandShell.Proofs.AppendedOnce
import CommandShell.Proofs.Arguments
import CommandShell.Proofs.Beginning
import CommandShell.Proofs.Bookkeeping
import CommandShell.Proofs.Cancellation
import CommandShell.Proofs.Completed
import CommandShell.Proofs.Completing
import CommandShell.Proofs.Conservation
import CommandShell.Proofs.Constancy
import CommandShell.Proofs.Contribution
import CommandShell.Proofs.Course
import CommandShell.Proofs.Creation
import CommandShell.Proofs.CutOff
import CommandShell.Proofs.Decomposition
import CommandShell.Proofs.Delivering
import CommandShell.Proofs.Directory
import CommandShell.Proofs.Effects
import CommandShell.Proofs.Execution
import CommandShell.Proofs.ExitStatus
import CommandShell.Proofs.Extraction
import CommandShell.Proofs.FirstLookup
import CommandShell.Proofs.Following
import CommandShell.Proofs.Foretelling
import CommandShell.Proofs.HistoryFile
import CommandShell.Proofs.HistoryRun
import CommandShell.Proofs.Home
import CommandShell.Proofs.InOrder
import CommandShell.Proofs.Joining
import CommandShell.Proofs.LikeJobs
import CommandShell.Proofs.LikeStages
import CommandShell.Proofs.Likeness
import CommandShell.Proofs.Lines
import CommandShell.Proofs.Listing
import CommandShell.Proofs.LoopHistory
import CommandShell.Proofs.LoopRun
import CommandShell.Proofs.Machine
import CommandShell.Proofs.Memo
import CommandShell.Proofs.Numbering
import CommandShell.Proofs.Openable
import CommandShell.Proofs.Opening
import CommandShell.Proofs.Operands
import CommandShell.Proofs.Output
import CommandShell.Proofs.Persistence
import CommandShell.Proofs.PipeEnds
import CommandShell.Proofs.PipelineEnd
import CommandShell.Proofs.PipelineRun
import CommandShell.Proofs.Printing
import CommandShell.Proofs.Reader
import CommandShell.Proofs.Recall
import CommandShell.Proofs.Recording
import CommandShell.Proofs.Refusal
import CommandShell.Proofs.Reload
import CommandShell.Proofs.Requoting
import CommandShell.Proofs.Rereading
import CommandShell.Proofs.RunLog
import CommandShell.Proofs.Shape
import CommandShell.Proofs.Splitting
import CommandShell.Proofs.Steadiness
import CommandShell.Proofs.Twins
import CommandShell.Proofs.Unopened
import CommandShell.Proofs.Whereabouts
import CommandShell.Proofs.Wiring
import CommandShell.Proofs.Written
import CommandShell.Repl
import CommandShell.Search
import CommandShell.Syntax.Line
import CommandShell.Syntax.Redirection
import CommandShell.Syntax.Segment
import CommandShell.Syntax.Stage
import CommandShell.Syntax.Word
import CommandShell.Text.Blank
import CommandShell.Text.Bytes
import CommandShell.Text.CharacterClass
import CommandShell.Text.Grapheme
import CommandShell.Text.Lines
import CommandShell.Text.Numeral
import CommandShell.Text.Quoted
import CommandShell.Text.Width
