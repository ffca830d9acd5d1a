import Workflow.Address.Basic
import Workflow.Address.Host
import Workflow.Address.Reading
import Workflow.Agent.Conversation
import Workflow.Agent.Structured
import Workflow.Agent.Turn
import Workflow.Assoc
import Workflow.Clock.Calendar
import Workflow.Clock.Instant
import Workflow.CommandLine.Arguments
import Workflow.CommandLine.Command
import Workflow.CommandLine.Session
import Workflow.Config.Basic
import Workflow.Config.Environment
import Workflow.Config.Loading
import Workflow.Config.Model
import Workflow.Config.Toml
import Workflow.Config.TomlWriter
import Workflow.Context
import Workflow.Conversation.Message
import Workflow.Decimal.Notation
import Workflow.Decimal.Reading
import Workflow.Decimal.Remainder
import Workflow.Error
import Workflow.Event.Basic
import Workflow.Event.Bus
import Workflow.EventStream
import Workflow.Gateway.Reply
import Workflow.Graph.Basic
import Workflow.Graph.Defect
import Workflow.Graph.Validity
import Workflow.Graph.Wire
import Workflow.Inputs
import Workflow.Json.Basic
import Workflow.Json.Document
import Workflow.Json.Number
import Workflow.Json.Printer
import Workflow.Main
import Workflow.Model.ChatCompletions
import Workflow.Model.Client
import Workflow.Model.Dialect
import Workflow.Model.Exchange
import Workflow.Model.MessagesApi
import Workflow.Model.Opening
import Workflow.Proofs.Agent.Assembly
import Workflow.Proofs.Agent.Attempt
import Workflow.Proofs.Agent.CutOff
import Workflow.Proofs.Agent.Dispatch
import Workflow.Proofs.Agent.Failure
import Workflow.Proofs.Agent.Log
import Workflow.Proofs.Agent.Mending
import Workflow.Proofs.Agent.Pairing
import Workflow.Proofs.Agent.Permission
import Workflow.Proofs.Agent.Round
import Workflow.Proofs.Agent.Structured
import Workflow.Proofs.Agent.Talk
import Workflow.Proofs.Assoc
import Workflow.Proofs.Clock.Calendar
import Workflow.Proofs.Clock.Instant
import Workflow.Proofs.Clock.Reading
import Workflow.Proofs.CommandLine.Entry
import Workflow.Proofs.Config.Expansion
import Workflow.Proofs.Event.Bus
import Workflow.Proofs.EventStream.Chunks
import Workflow.Proofs.EventStream.Frames
import Workflow.Proofs.EventStream.Silence
import Workflow.Proofs.Gateway.Stream
import Workflow.Proofs.Graph.Blame
import Workflow.Proofs.Graph.Cycle
import Workflow.Proofs.Graph.Depth
import Workflow.Proofs.Graph.Document
import Workflow.Proofs.Graph.Encoding
import Workflow.Proofs.Graph.Loading
import Workflow.Proofs.Graph.Walk
import Workflow.Proofs.Graph.WellFormed
import Workflow.Proofs.Json.Canonical
import Workflow.Proofs.Json.Grammar
import Workflow.Proofs.Json.Readback
import Workflow.Proofs.Json.Rendering
import Workflow.Proofs.Manager.Apart
import Workflow.Proofs.Manager.Aspect
import Workflow.Proofs.Manager.Bulletin
import Workflow.Proofs.Manager.Calls
import Workflow.Proofs.Manager.Cancel
import Workflow.Proofs.Manager.Deed
import Workflow.Proofs.Manager.Exclusive
import Workflow.Proofs.Manager.Found
import Workflow.Proofs.Manager.Gone
import Workflow.Proofs.Manager.Office
import Workflow.Proofs.Manager.Order
import Workflow.Proofs.Manager.Origin
import Workflow.Proofs.Manager.Progress
import Workflow.Proofs.Manager.Stopping
import Workflow.Proofs.Manager.Store
import Workflow.Proofs.Manager.Telling
import Workflow.Proofs.Manager.Timeout
import Workflow.Proofs.Manager.Worker
import Workflow.Proofs.Model.Backoff
import Workflow.Proofs.Model.Encoding
import Workflow.Proofs.Model.Schedule
import Workflow.Proofs.Run.Alike
import Workflow.Proofs.Run.Binding
import Workflow.Proofs.Run.Bound
import Workflow.Proofs.Run.Budget
import Workflow.Proofs.Run.Document
import Workflow.Proofs.Run.Failure
import Workflow.Proofs.Run.History
import Workflow.Proofs.Run.Loop
import Workflow.Proofs.Run.Opening
import Workflow.Proofs.Run.Outputs
import Workflow.Proofs.Run.Recurrence
import Workflow.Proofs.Run.Shape
import Workflow.Proofs.Run.Step
import Workflow.Proofs.Run.Storable
import Workflow.Proofs.Run.Stored
import Workflow.Proofs.Run.Trace
import Workflow.Proofs.Run.Transparency
import Workflow.Proofs.Store.Agreement
import Workflow.Proofs.Store.Listing
import Workflow.Proofs.Store.Restart
import Workflow.Proofs.Store.Sweep
import Workflow.Proofs.Store.Take
import Workflow.Proofs.Template.Cut
import Workflow.Proofs.Template.Search
import Workflow.Proofs.Template.Segment
import Workflow.Proofs.Text.CodeUnits
import Workflow.Proofs.Text.Digits
import Workflow.Proofs.Text.Piece
import Workflow.Proofs.Text.Trim
import Workflow.Proofs.Text.Utf8
import Workflow.Proofs.ToolServer.Access
import Workflow.Proofs.ToolServer.Freshness
import Workflow.Proofs.ToolServer.Name
import Workflow.Proofs.ToolServer.Repetition
import Workflow.Proofs.Wire.Agrees
import Workflow.Proofs.Wire.Gives
import Workflow.Proofs.Wire.Reads
import Workflow.Proofs.Wire.Repeated
import Workflow.Rehearsal.Cast
import Workflow.Rehearsal.Document
import Workflow.Rehearsal.FaultyStore
import Workflow.Rehearsal.Play
import Workflow.Rehearsal.Provider
import Workflow.Rehearsal.Servers
import Workflow.Rehearsal.World
import Workflow.Retry
import Workflow.Run.Leg
import Workflow.Run.Manager
import Workflow.Run.RowStore
import Workflow.Run.Summary
import Workflow.Run.Suspension
import Workflow.Schema.Basic
import Workflow.Schema.Complaint
import Workflow.Schema.Document
import Workflow.Schema.Format
import Workflow.Schema.Language
import Workflow.Schema.Message
import Workflow.Schema.Place
import Workflow.Schema.Reading
import Workflow.Script.Evaluator
import Workflow.Script.Fault
import Workflow.Script.Item
import Workflow.Script.Library
import Workflow.Script.Limits
import Workflow.Script.Machine
import Workflow.Script.Operation
import Workflow.Script.Parser
import Workflow.Script.Position
import Workflow.Script.Runner
import Workflow.Script.Simplification
import Workflow.Script.Term
import Workflow.Script.Token
import Workflow.Script.Value
import Workflow.Template
import Workflow.Text.Blank
import Workflow.Text.Category
import Workflow.Text.CharacterSet
import Workflow.Text.CodePoints
import Workflow.Text.Encoding
import Workflow.Text.Pattern.Automaton
import Workflow.Text.Pattern.Basic
import Workflow.Text.Pattern.Bracket
import Workflow.Text.Pattern.Machine
import Workflow.Text.Pattern.Matcher
import Workflow.Text.Pattern.Reading
import Workflow.Text.Property
import Workflow.Text.Quoted
import Workflow.Text.UpperCase
import Workflow.Text.Utf8
import Workflow.Text.WritingSystem
import Workflow.Tool
import Workflow.ToolServer.Calling
import Workflow.ToolServer.Listing
import Workflow.ToolServer.Protocol
import Workflow.Width
import Workflow.Wire.Decoder
import Workflow.Wire.Fault
