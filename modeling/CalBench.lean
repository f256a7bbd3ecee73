import CalBench.Catalog.Basic
import CalBench.Catalog.Lookup
import CalBench.Catalog.Standard
import CalBench.CommandLine.Arguments
import CalBench.CommandLine.Program
import CalBench.Config.Engine
import CalBench.Config.Environment
import CalBench.Config.Installation
import CalBench.Duration
import CalBench.Instruction.Basic
import CalBench.Instruction.Document
import CalBench.Instruction.Render
import CalBench.Instruction.Value
import CalBench.Json.Basic
import CalBench.Json.Reader
import CalBench.Json.Record
import CalBench.Json.Shape
import CalBench.Json.Writer
import CalBench.Link.Basic
import CalBench.Link.Board
import CalBench.Link.Call
import CalBench.Link.Controller
import CalBench.Link.Emulated
import CalBench.Link.Error
import CalBench.Link.Frame
import CalBench.Link.Interface
import CalBench.Link.Rehearsal
import CalBench.Link.SerialLine
import CalBench.Link.Settings
import CalBench.Link.Status
import CalBench.Link.Stream
import CalBench.Link.Terminator
import CalBench.Link.Typed
import CalBench.Link.Wire
import CalBench.Main
import CalBench.Measurement
import CalBench.Number.Layout
import CalBench.Number.Read
import CalBench.Number.Shortest
import CalBench.Pool.Basic
import CalBench.Pool.Lease
import CalBench.Procedure.Graph
import CalBench.Procedure.Request
import CalBench.Procedure.Runner
import CalBench.Procedure.Station
import CalBench.Process.Basic
import CalBench.Process.Schedule
import CalBench.Proofs.Catalog.RoundTrip
import CalBench.Proofs.Config.Readiness
import CalBench.Proofs.Instruction.RoundTrip
import CalBench.Proofs.Instruction.Unresolved
import CalBench.Proofs.Json.RoundTrip
import CalBench.Proofs.Link.Address
import CalBench.Proofs.Link.Correlation
import CalBench.Proofs.Link.Dialogue
import CalBench.Proofs.Link.Framing
import CalBench.Proofs.Link.Heard
import CalBench.Proofs.Link.Memory
import CalBench.Proofs.Link.Tidy
import CalBench.Proofs.Pool.Courtesy
import CalBench.Proofs.Pool.Deeds
import CalBench.Proofs.Pool.Exclusive
import CalBench.Proofs.Pool.Lease
import CalBench.Proofs.Pool.Owned
import CalBench.Proofs.Pool.Shutdown
import CalBench.Proofs.Pool.Switch
import CalBench.Proofs.Procedure.Announcements
import CalBench.Proofs.Procedure.CleanUp
import CalBench.Proofs.Procedure.InterfaceSwitch
import CalBench.Proofs.Procedure.Refusal
import CalBench.Proofs.Procedure.RoundTrip
import CalBench.Proofs.Procedure.RunSlot
import CalBench.Proofs.Procedure.Solitary
import CalBench.Proofs.Procedure.StoppedRun
import CalBench.Proofs.Procedure.Transition
import CalBench.Proofs.Procedure.Traversal
import CalBench.Proofs.Process.Alone
import CalBench.Proofs.Process.Among
import CalBench.Proofs.Process.Floor
import CalBench.Proofs.Process.Interrupted
import CalBench.Proofs.Process.Obeys
import CalBench.Proofs.Process.Traits
import CalBench.Proofs.Process.Turns
import CalBench.Proofs.Process.Waits
import CalBench.Proofs.Run.Addressing
import CalBench.Proofs.Run.Binding
import CalBench.Proofs.Run.Causes
import CalBench.Proofs.Run.Changes
import CalBench.Proofs.Run.Course
import CalBench.Proofs.Run.ErrorChecks
import CalBench.Proofs.Run.FailurePolicy
import CalBench.Proofs.Run.LastWriter
import CalBench.Proofs.Run.Neighbours
import CalBench.Proofs.Run.Packaging
import CalBench.Proofs.Run.Step
import CalBench.Proofs.Run.Stopped
import CalBench.Proofs.Run.StoredResponse
import CalBench.Proofs.Run.Truncated
import CalBench.Proofs.Sequence.Acceptance
import CalBench.Proofs.Sequence.Field
import CalBench.Proofs.Sequence.Locality
import CalBench.Proofs.Sequence.Payload
import CalBench.Proofs.Sequence.RoundTrip
import CalBench.Proofs.Sequence.TagOrder
import CalBench.Run.Bench
import CalBench.Run.ErrorCheck
import CalBench.Run.Executor
import CalBench.Run.Failure
import CalBench.Run.Report
import CalBench.Run.Retry
import CalBench.Sequence.Compile
import CalBench.Sequence.Context
import CalBench.Sequence.Operation
import CalBench.Sequence.Plan
import CalBench.Table
import CalBench.Text.Ascii
import CalBench.Text.Blank
import CalBench.Text.Case
import CalBench.Text.CaseTable
import CalBench.Text.Debug
import CalBench.Text.HiddenTable
import CalBench.Text.Instant
import CalBench.Text.Utf8
import CalBench.Toml.Reader
import CalBench.Toml.Scalar
import CalBench.Toml.Text
import CalBench.Toml.Tree
import CalBench.Proofs.Procedure.Preorder
import CalBench.Proofs.Number.Order
import CalBench.Proofs.Procedure.Spelling
import CalBench.Proofs.Instruction.Range
import CalBench.Proofs.Link.LateReply
import CalBench.Proofs.Instruction.Composition
import CalBench.Proofs.Run.Budget
import CalBench.Proofs.Procedure.LifeCycle
import CalBench.Proofs.Link.Truthful
import CalBench.Proofs.Pool.Vouched
import CalBench.Proofs.Pool.Stranded
import CalBench.Proofs.Latest
import CalBench.Proofs.Number.Numeral
import CalBench.Proofs.Link.Lossless
import CalBench.Proofs.Sequence.MessagePath
import CalBench.Proofs.Run.Verdict
import CalBench.Proofs.Pool.Plays
import CalBench.Proofs.Run.ErrorQueue
import CalBench.Proofs.Catalog.Precedence
import CalBench.Proofs.Link.GroupTrigger
import CalBench.Proofs.Link.SingleTrigger
