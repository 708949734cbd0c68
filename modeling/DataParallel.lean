import DataParallel.Bytes
import DataParallel.Config
import DataParallel.Device.Basic
import DataParallel.Device.Label
import DataParallel.Device.Registry
import DataParallel.Device.Spec
import DataParallel.Dtype.Basic
import DataParallel.Dtype.Cell
import DataParallel.Dtype.ItemFormat
import DataParallel.Dtype.ItemType
import DataParallel.Dtype.Name
import DataParallel.Dtype.Promotion
import DataParallel.Embedding.Basic
import DataParallel.Embedding.Lookup
import DataParallel.Fault
import DataParallel.Host
import DataParallel.Journal.Basic
import DataParallel.Journal.Template
import DataParallel.Json.Reader
import DataParallel.Json.Writer
import DataParallel.Keyed
import DataParallel.MessagePack.Reader
import DataParallel.MessagePack.Writer
import DataParallel.Number.Binary
import DataParallel.Number.Notation
import DataParallel.Number.Rounded
import DataParallel.Number.Shortest
import DataParallel.Optimizer.Basic
import DataParallel.Optimizer.Update
import DataParallel.Parameter.Basic
import DataParallel.Parameter.Initial
import DataParallel.Pool.Array
import DataParallel.Pool.Basic
import DataParallel.Pool.Literal
import DataParallel.Pool.Manager
import DataParallel.Proofs.Host.Evolution
import DataParallel.Proofs.Optimizer.FloatType
import DataParallel.Proofs.Optimizer.Isolation
import DataParallel.Proofs.Optimizer.Training
import DataParallel.Proofs.Pool.Apart
import DataParallel.Proofs.Pool.Copy
import DataParallel.Proofs.Pool.Evolution
import DataParallel.Proofs.Pool.Lookup
import DataParallel.Proofs.Pool.Operations
import DataParallel.Proofs.Pool.Overwriting
import DataParallel.Proofs.Pool.Writing
import DataParallel.Proofs.Server.Contained
import DataParallel.Proofs.Server.Local
import DataParallel.Proofs.Server.Watched
import DataParallel.Proofs.Step.Mirrors
import DataParallel.Proofs.Store.Consistent
import DataParallel.Proofs.Store.FirstTouch
import DataParallel.Proofs.Store.LocalRound
import DataParallel.Proofs.Store.LocalTouch
import DataParallel.Proofs.Store.MasterKept
import DataParallel.Proofs.Store.PlacedOnce
import DataParallel.Proofs.Store.Placement
import DataParallel.Proofs.Store.PlainTraining
import DataParallel.Proofs.Store.ReplicaTable
import DataParallel.Proofs.Store.Runs
import DataParallel.Proofs.Store.Training
import DataParallel.Proofs.Store.Unseen
import DataParallel.Proofs.Store.Unwatched
import DataParallel.Record.Reader
import DataParallel.Record.Writer
import DataParallel.Server.Basic
import DataParallel.Server.Local
import DataParallel.Server.Recording
import DataParallel.Step
import DataParallel.Store.Basic
import DataParallel.Store.Configured
import DataParallel.Store.Placement
import DataParallel.Store.Synchronization
import DataParallel.Tensor.Arithmetic
import DataParallel.Tensor.Basic
import DataParallel.Tensor.Contents
import DataParallel.Tensor.Filled
import DataParallel.Tensor.Literal
import DataParallel.Tensor.Reordered
import DataParallel.Tensor.Select
import DataParallel.Tensor.Shape
import DataParallel.Text.Blank
import DataParallel.Text.Case
import DataParallel.Text.CaseTable
import DataParallel.Text.Digit
import DataParallel.Text.Half
import DataParallel.Text.PrintableTable
import DataParallel.Text.Quoted
import DataParallel.Value.Basic
import DataParallel.Value.HostArray
import DataParallel.Value.Reading
import DataParallel.Value.Shown
import DataParallel.Workspace
import DataParallel.Proofs.Store.Restricted
import DataParallel.Proofs.Store.TouchCalls
import DataParallel.Proofs.Store.FailedTouch
import DataParallel.Proofs.Server.Tracking
import DataParallel.Proofs.Store.TouchOrder
import DataParallel.Proofs.Store.Round
import DataParallel.Proofs.Store.RefusedRound
import DataParallel.Proofs.MessagePack.RoundTrip
import DataParallel.Proofs.Tensor.Strided
import DataParallel.Proofs.Tensor.Contents
import DataParallel.Proofs.Record.Payload
import DataParallel.Proofs.Record.RoundTrip
import DataParallel.Proofs.Record.Numbers
import DataParallel.Proofs.Pool.Creation
import DataParallel.Proofs.Parameter.Reload
import DataParallel.Proofs.Server.Session
import DataParallel.Proofs.Server.Ledger
import DataParallel.Proofs.Server.Refinement
import DataParallel.Proofs.Server.FailedCall
import DataParallel.Proofs.Step.Keeps
import DataParallel.Proofs.Tensor.Broadcast
import DataParallel.Proofs.Optimizer.WeightShape
import DataParallel.Proofs.Server.MasterShape
import DataParallel.Proofs.Pool.Orderly
import DataParallel.Proofs.Pool.Subtree
import DataParallel.Proofs.Pool.Closing
import DataParallel.Optimizer.Memory
import DataParallel.Proofs.Optimizer.Interleaving
import DataParallel.Proofs.Pool.Ownership
import DataParallel.Proofs.Optimizer.Restoring
import DataParallel.Proofs.Optimizer.Memory
import DataParallel.Proofs.Optimizer.Checkpoint
import DataParallel.Proofs.Record.Truncated
import DataParallel.Proofs.Parameter.Truncated
import DataParallel.Proofs.Pool.Selection
import DataParallel.Proofs.Parameter.InitialShape
import DataParallel.Proofs.Embedding.Indices
import DataParallel.Proofs.Store.Serving
import DataParallel.Proofs.Embedding.Lookup
import DataParallel.Proofs.Embedding.Weight
import DataParallel.Proofs.Embedding.Runs
import DataParallel.Store.Crowd
import DataParallel.Proofs.Server.Scripted
import DataParallel.Proofs.Store.Outlook
import DataParallel.Proofs.Store.Between
import DataParallel.Proofs.Store.Crowd
import DataParallel.Proofs.Store.PlacedByOne
import DataParallel.Store.Meeting
import DataParallel.Proofs.Store.Meeting
import DataParallel.Proofs.Record.Header
import DataParallel.Proofs.Optimizer.Forgetting
import DataParallel.Proofs.Optimizer.Writes
import DataParallel.Proofs.Optimizer.FailedUpdate
import DataParallel.Proofs.Embedding.FailedLoad
import DataParallel.Proofs.Embedding.Checkpoint
import DataParallel.Proofs.Number.Comparison
import DataParallel.Proofs.Number.Whole
import DataParallel.Proofs.Number.Equality
import DataParallel.Proofs.Value.Equality
import DataParallel.Proofs.Step.Succeeds
import DataParallel.Proofs.Step.Simulates
import DataParallel.Proofs.Tensor.FloatArithmetic
import DataParallel.Proofs.Tensor.Single
import DataParallel.Proofs.Tensor.Slice
import DataParallel.Proofs.Optimizer.EveryShape
import DataParallel.Proofs.Optimizer.Elementwise
import DataParallel.Proofs.Embedding.Items
import DataParallel.Proofs.Embedding.Rows
import DataParallel.Proofs.Record.Frame
import DataParallel.Proofs.Record.Accepted
import DataParallel.Proofs.Record.Faults
import DataParallel.Proofs.Record.Malformed
import DataParallel.Proofs.Server.Unread
import DataParallel.Proofs.Server.StartingOver
import DataParallel.Proofs.Tensor.Wrapping
import DataParallel.Proofs.Server.Grouping
import DataParallel.Proofs.Text.Lower
import DataParallel.Proofs.Text.Whole
import DataParallel.Proofs.Device.Spec
import DataParallel.Proofs.Config.Valid
import DataParallel.Proofs.Store.Configured
import DataParallel.Proofs.Optimizer.Configured
import DataParallel.Proofs.Optimizer.StateType
import DataParallel.Proofs.Server.MasterType
import DataParallel.Proofs.Device.Registry
import DataParallel.Proofs.Server.Bookkeeping
import DataParallel.Proofs.Store.Reconfigured
import DataParallel.Proofs.Parameter.Beginning
import DataParallel.Proofs.Number.Nearest
import DataParallel.Proofs.Number.Shortest
import DataParallel.Proofs.Json.Number
import DataParallel.Proofs.Json.Text
import DataParallel.Proofs.Json.RoundTrip
import DataParallel.Proofs.Config.RoundTrip
