import SlotKeeper.Backoff.Policy
import SlotKeeper.Decimal.Nearest
import SlotKeeper.Decimal.Shortest
import SlotKeeper.Engine.Bus
import SlotKeeper.Engine.Error
import SlotKeeper.Engine.Executor
import SlotKeeper.Engine.Loop
import SlotKeeper.Engine.World
import SlotKeeper.Ident.Uuid
import SlotKeeper.Json.Decode
import SlotKeeper.Json.Read
import SlotKeeper.Json.Value
import SlotKeeper.Json.Write
import SlotKeeper.Pool.Books
import SlotKeeper.Pool.Client
import SlotKeeper.Pool.Config
import SlotKeeper.Pool.Coordinator
import SlotKeeper.Pool.Failure
import SlotKeeper.Pool.Leases
import SlotKeeper.Pool.Request
import SlotKeeper.Pool.Supervisor
import SlotKeeper.Pool.Admin
import SlotKeeper.Script.Clock
import SlotKeeper.Script.Config
import SlotKeeper.Script.Coordinator
import SlotKeeper.Script.Dispatch
import SlotKeeper.Script.Executor
import SlotKeeper.Script.Failures
import SlotKeeper.Script.PoolState
import SlotKeeper.Script.Records
import SlotKeeper.Script.Rename
import SlotKeeper.Script.Reply
import SlotKeeper.Script.Retry
import SlotKeeper.Script.Sql
import SlotKeeper.Script.Store
import SlotKeeper.Script.Tasks
import SlotKeeper.Script.Views
import SlotKeeper.Store.Error
import SlotKeeper.Store.Faulty
import SlotKeeper.Store.Memory
import SlotKeeper.Store.Run
import SlotKeeper.Store.Sql
import SlotKeeper.Text.Blank
import SlotKeeper.Text.Unicode
import SlotKeeper.Time.Clock
import SlotKeeper.Time.Watch
import SlotKeeper.Time.Instant
import SlotKeeper.Time.Rfc3339
import SlotKeeper.Time.Span
import SlotKeeper.Workflow.Echo
import SlotKeeper.Workflow.Event
import SlotKeeper.Workflow.Fault
import SlotKeeper.Workflow.Program
import SlotKeeper.Workflow.Signal
import SlotKeeper.Proofs.Pool.Transitions
import SlotKeeper.Proofs.Pool.Accounting
import SlotKeeper.Proofs.Pool.Answers
import SlotKeeper.Proofs.Store.Runs
import SlotKeeper.Proofs.Store.Refusals
import SlotKeeper.Proofs.Store.Registry
import SlotKeeper.Proofs.Engine.Log
import SlotKeeper.Proofs.Engine.Triple
import SlotKeeper.Proofs.Engine.Invariant
import SlotKeeper.Proofs.Engine.Specs
import SlotKeeper.Proofs.Engine.Execution
import SlotKeeper.Proofs.Pool.Recovery
import SlotKeeper.Proofs.Engine.Mailbox
import SlotKeeper.Proofs.Pool.Acquire
import SlotKeeper.Proofs.Json.Records
import SlotKeeper.Proofs.Pool.Codec
import SlotKeeper.Proofs.Pool.Continuation
import SlotKeeper.Proofs.Engine.Handoff
import SlotKeeper.Proofs.Pool.Signals
import SlotKeeper.Proofs.Engine.Positions
import SlotKeeper.Proofs.Engine.Timed
import SlotKeeper.Proofs.Engine.Bounded
import SlotKeeper.Proofs.Engine.BoundedSteps
import SlotKeeper.Proofs.Engine.History
import SlotKeeper.Proofs.Engine.Addressing
import SlotKeeper.Proofs.Engine.Sending
import SlotKeeper.Proofs.Engine.Custody
import SlotKeeper.Proofs.Engine.Pacing
import SlotKeeper.Proofs.Workflow.Codec
import SlotKeeper.Proofs.Pool.Wire
import SlotKeeper.Proofs.Pool.Holdings
import SlotKeeper.Proofs.Pool.Reclaim
import SlotKeeper.Proofs.Pool.Draining
import SlotKeeper.Proofs.Backoff.Policy
import SlotKeeper.Proofs.Pool.Retrying
import SlotKeeper.Proofs.Store.Conversation
import SlotKeeper.Proofs.Store.Transactions
import SlotKeeper.Proofs.Engine.Frame
import SlotKeeper.Proofs.Engine.Replacing
import SlotKeeper.Proofs.Pool.Reset
import SlotKeeper.Proofs.Time.Elapsed
import SlotKeeper.Proofs.Time.Watch
