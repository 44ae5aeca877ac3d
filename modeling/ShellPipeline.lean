import ShellPipeline.Builtin.Help
import ShellPipeline.Builtin.History
import ShellPipeline.Builtin.Registry
import ShellPipeline.Builtin.Standard
import ShellPipeline.Child.Failure
import ShellPipeline.Child.Plan
import ShellPipeline.Child.Rewire
import ShellPipeline.Child.Wait
import ShellPipeline.Child.Write
import ShellPipeline.CommandLine.Options
import ShellPipeline.CommandLine.Start
import ShellPipeline.Descriptor.Table
import ShellPipeline.Descriptor.Wiring
import ShellPipeline.Edit.Cycle
import ShellPipeline.Edit.Escape
import ShellPipeline.Edit.Read
import ShellPipeline.Edit.Script
import ShellPipeline.Edit.Substitute
import ShellPipeline.Line.Lexer
import ShellPipeline.Line.Parse
import ShellPipeline.Line.Token
import ShellPipeline.Machine.Basic
import ShellPipeline.Machine.Host
import ShellPipeline.Machine.Load
import ShellPipeline.Machine.Paths
import ShellPipeline.Machine.Reply
import ShellPipeline.Machine.Run
import ShellPipeline.Machine.Shell
import ShellPipeline.Machine.Signals
import ShellPipeline.Main
import ShellPipeline.Number.Binary
import ShellPipeline.Number.Digits
import ShellPipeline.Number.Directive
import ShellPipeline.Pipeline.Basic
import ShellPipeline.Pipeline.Explain
import ShellPipeline.Pipeline.Stage
import ShellPipeline.Process.Call
import ShellPipeline.Process.Search
import ShellPipeline.Run.Event
import ShellPipeline.Run.Exit
import ShellPipeline.Run.Fault
import ShellPipeline.Run.Host
import ShellPipeline.Run.Pipeline
import ShellPipeline.Run.Resolve
import ShellPipeline.Run.Shell
import ShellPipeline.Script.Arithmetic
import ShellPipeline.Script.Expand
import ShellPipeline.Script.Field
import ShellPipeline.Script.Grammar
import ShellPipeline.Script.Input
import ShellPipeline.Script.Job
import ShellPipeline.Script.Redirect
import ShellPipeline.Script.Run
import ShellPipeline.Script.Search
import ShellPipeline.Script.Simple
import ShellPipeline.Script.Source
import ShellPipeline.Script.Spelling
import ShellPipeline.Script.Start
import ShellPipeline.Script.State
import ShellPipeline.Script.Syntax
import ShellPipeline.Script.Utility
import ShellPipeline.Script.Utility.Condition
import ShellPipeline.Script.Utility.Control
import ShellPipeline.Script.Utility.Output
import ShellPipeline.Script.Utility.Place
import ShellPipeline.Script.Utility.Process
import ShellPipeline.Script.Utility.Search
import ShellPipeline.Script.Utility.Table
import ShellPipeline.Script.Utility.Variable
import ShellPipeline.Script.Variables
import ShellPipeline.Session.Basic
import ShellPipeline.Session.Console
import ShellPipeline.Session.Conversation
import ShellPipeline.Session.Dispatch
import ShellPipeline.Session.Explain
import ShellPipeline.System.Errno
import ShellPipeline.System.Errno.Table
import ShellPipeline.System.Signal
import ShellPipeline.Text.Blank
import ShellPipeline.Text.Class
import ShellPipeline.Text.Json
import ShellPipeline.Text.Lines
import ShellPipeline.Text.Locale
import ShellPipeline.Text.Numeral
import ShellPipeline.Text.Quoted
import ShellPipeline.Text.Regex.Basic
import ShellPipeline.Text.Regex.Read
import ShellPipeline.Text.Regex.Search
import ShellPipeline.Text.Shapeless
import ShellPipeline.Text.Utf8
import ShellPipeline.Text.Wildcard
import ShellPipeline.Tool.Basic
import ShellPipeline.Tool.Characters
import ShellPipeline.Tool.Collation
import ShellPipeline.Tool.Copy
import ShellPipeline.Tool.Count
import ShellPipeline.Tool.Detail
import ShellPipeline.Tool.Edit
import ShellPipeline.Tool.Escape
import ShellPipeline.Tool.Listing
import ShellPipeline.Tool.Option
import ShellPipeline.Tool.Order
import ShellPipeline.Tool.Page
import ShellPipeline.Tool.Part
import ShellPipeline.Tool.Quote
import ShellPipeline.Tool.Sequence
import ShellPipeline.Tool.Size
import ShellPipeline.Tool.Surroundings
import ShellPipeline.Tool.Table
import ShellPipeline.Tool.Words
import ShellPipeline.World.Basic
import ShellPipeline.World.Console
import ShellPipeline.World.Path
import ShellPipeline.World.Queue
import ShellPipeline.World.Rehearsal
import ShellPipeline.World.Requests
import ShellPipeline.World.Setup
import ShellPipeline.World.Terminal
import ShellPipeline.World.Tree
import ShellPipeline.Proofs.Run.Ownership
import ShellPipeline.Proofs.Line.Parse
import ShellPipeline.Proofs.Line.Rendering
import ShellPipeline.Proofs.Run.Connection
import ShellPipeline.Proofs.Run.Wiring
import ShellPipeline.Proofs.Run.Flow
import ShellPipeline.Proofs.Run.Calls
import ShellPipeline.Proofs.Run.Outcome
import ShellPipeline.Proofs.Line.Junction
import ShellPipeline.Proofs.Session.Routes
import ShellPipeline.Proofs.Run.Steps
import ShellPipeline.Proofs.Child.Rewire
import ShellPipeline.Proofs.Run.Referents
import ShellPipeline.Proofs.Run.Outfit
import ShellPipeline.Proofs.Run.Refusals
import ShellPipeline.Proofs.Run.Requests
import ShellPipeline.Proofs.Run.Spared
import ShellPipeline.Proofs.Run.Holders
import ShellPipeline.Proofs.Child.Crossing
import ShellPipeline.Proofs.Line.Checked
import ShellPipeline.Proofs.Session.Checked
import ShellPipeline.Proofs.Text.Cut
import ShellPipeline.Proofs.Session.Intake
import ShellPipeline.Proofs.Machine.Intake
import ShellPipeline.Proofs.Session.Rounds
import ShellPipeline.Proofs.Session.Fold
import ShellPipeline.Proofs.Session.Explained
import ShellPipeline.Proofs.Pipeline.Defects
import ShellPipeline.Proofs.Child.Arguments
import ShellPipeline.Proofs.Run.Accounting
import ShellPipeline.Proofs.World.Opening
import ShellPipeline.Proofs.World.Held
import ShellPipeline.Proofs.Run.Effect
import ShellPipeline.Proofs.Builtin.Exit
import ShellPipeline.Proofs.Builtin.History
import ShellPipeline.Proofs.Builtin.Frame
import ShellPipeline.Proofs.Pipeline.Explain
import ShellPipeline.Proofs.Builtin.Shadowing
import ShellPipeline.Proofs.Builtin.Help
import ShellPipeline.Proofs.Child.Reaping
import ShellPipeline.Proofs.Child.Writing
import ShellPipeline.Proofs.Session.Prompts
