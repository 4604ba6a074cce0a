import EventScript.Builtin.Call
import EventScript.CommandLine
import EventScript.CommandLine.Arguments
import EventScript.CommandLine.Watch
import EventScript.Document.Reader
import EventScript.Document.Writer
import EventScript.Effect
import EventScript.Engine.Basic
import EventScript.Engine.Dispatch
import EventScript.Engine.Loading
import EventScript.Event.Throttle
import EventScript.Files
import EventScript.Files.Path
import EventScript.Frame
import EventScript.Interpreter.Basic
import EventScript.Interpreter.Expression
import EventScript.Interpreter.Statement
import EventScript.Log
import EventScript.Main
import EventScript.Number.Power
import EventScript.Number.Spelling
import EventScript.Pattern.Machine
import EventScript.Pattern.Property
import EventScript.Pattern.Reader
import EventScript.Program.Parser
import EventScript.Script
import EventScript.Settings
import EventScript.Store
import EventScript.Store.DataFile
import EventScript.Text.Case
import EventScript.Text.Category
import EventScript.TickQueue
import EventScript.Token.Lexer
import EventScript.Toml
import EventScript.Toml.Reader
import EventScript.Toml.Scalar
import EventScript.Value.Arithmetic
import EventScript.Value.Comparison
import EventScript.Value.Document
import EventScript.Proofs.Interpreter.Lockstep
import EventScript.Proofs.Interpreter.Budget
import EventScript.Proofs.Dictionary
import EventScript.Proofs.Effect
import EventScript.Proofs.Interpreter.Truncation
import EventScript.Proofs.Interpreter.Undisturbed
import EventScript.Proofs.Interpreter.Visits
import EventScript.Proofs.Interpreter.Suspension
import EventScript.Proofs.Frame
import EventScript.Proofs.Interpreter.Injection
import EventScript.Proofs.Engine.Request
import EventScript.Proofs.Engine.Shutdown
import EventScript.Proofs.Program.Forward
import EventScript.Proofs.Token.Lines
import EventScript.Proofs.Program.CommandLines
import EventScript.Proofs.Script
import EventScript.Proofs.Engine.Index
import EventScript.Proofs.Document.Scalar
import EventScript.Proofs.Number.Rounding
import EventScript.Proofs.Number.Digits
import EventScript.Proofs.Document.Number
import EventScript.Proofs.Document.RoundTrip
import EventScript.Proofs.Value.Nesting
import EventScript.Proofs.Value.Order
import EventScript.Proofs.Value.Closed
import EventScript.Proofs.Builtin.Sorting
import EventScript.Proofs.Files
import EventScript.Proofs.Files.Path
import EventScript.Proofs.Files.Growth
import EventScript.Proofs.Store.Reopening
import EventScript.Proofs.Store.Marked
import EventScript.Proofs.Interpreter.StoreWrites
import EventScript.Proofs.Value.Contents
import EventScript.Proofs.Store.Contents
import EventScript.Proofs.Store.Session
import EventScript.Proofs.Store.Failures
import EventScript.Proofs.KeyedSort
import EventScript.Proofs.TickQueue
import EventScript.Proofs.TickQueue.Advance
import EventScript.Proofs.Program.Rendering
import EventScript.Proofs.Program.Levels
import EventScript.Proofs.Program.Precedence
import EventScript.Proofs.Program.Outline
import EventScript.Proofs.Program.Triple
import EventScript.Proofs.Program.Productions
import EventScript.Proofs.Program.Statements
import EventScript.Proofs.Token.Layers
import EventScript.Proofs.Program.Standing
import EventScript.Proofs.Program.Indentation
import EventScript.Proofs.Program.Template
import EventScript.Proofs.Program.Depth
import EventScript.Proofs.Event.Throttle
import EventScript.Proofs.Engine.Isolation
import EventScript.Proofs.Store.Restoring
import EventScript.Proofs.Interpreter.Steady
import EventScript.Proofs.Interpreter.Resumable
import EventScript.Proofs.Store.Absence
import EventScript.Proofs.Store.SessionAbsence
import EventScript.Proofs.Engine.HandOver
import EventScript.Proofs.CommandLine.Ledger
import EventScript.Proofs.CommandLine.Waiting
import EventScript.Proofs.Interpreter.Probed
import EventScript.Proofs.Interpreter.Recast
import EventScript.Proofs.Interpreter.CallDepth
import EventScript.Proofs.Interpreter.Structured
import EventScript.Proofs.Interpreter.Signals
import EventScript.Proofs.Text.Pieces
import EventScript.Proofs.Token.Rows
import EventScript.Proofs.Token.Margins
import EventScript.Proofs.Token.Readers
import EventScript.Proofs.Token.Remarks
import EventScript.Proofs.Token.Silence
import EventScript.Proofs.Program.Renumbering
import EventScript.Proofs.Program.Copying
import EventScript.Proofs.Program.SilentLines
import EventScript.Proofs.Program.Heads
import EventScript.Proofs.Program.SharedLines
import EventScript.Proofs.Program.Progress
import EventScript.Proofs.Program.Counted
import EventScript.Proofs.Program.Counting
import EventScript.Proofs.Program.Termination
import EventScript.Proofs.Program.Extent
import EventScript.Proofs.Program.HeaderLines
import EventScript.Proofs.Interpreter.FaultLines
import EventScript.Proofs.Script.Diagnostics
import EventScript.Proofs.Builtin.InPlace
import EventScript.Proofs.Number.Whole
import EventScript.Proofs.Text.Search
import EventScript.Proofs.Builtin.Positions
import EventScript.Proofs.Number.Literal
import EventScript.Proofs.Number.IntegerText
import EventScript.Proofs.Value.WholeNumber
import EventScript.Proofs.Token.Places
import EventScript.Proofs.Token.Signs
import EventScript.Proofs.Program.Room
import EventScript.Proofs.Program.Negation
import EventScript.Proofs.Program.Spans
import EventScript.Proofs.Token.Balance
import EventScript.Proofs.Token.Segments
