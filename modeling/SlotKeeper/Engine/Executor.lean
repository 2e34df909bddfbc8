import SlotKeeper.Engine.Error
import SlotKeeper.Store.Memory
import SlotKeeper.Workflow.Program

/-!
# Driving a workflow run

The executor drives one run of a workflow program against an event store. Its steps are written
once, for any monad `m` that offers an event store (`EventStore m`) and a host (`Host m`): the
current instant and delivery of signals to mailboxes.

* A run is recovered when the workflow's latest run is running and has the program's type:
  its log is replayed from the `workflow_started` input, and the actions of a last input that no
  `actions_delivered` marker follows are delivered again, best effort. Otherwise a fresh run is
  started from the given input.
* Before each wait the run is continued as new when it is older than the configured age or its
  log holds the configured number of events.
* Each signal or tick is appended to the log first, then applied; its actions, if any, are
  delivered and the number delivered is appended as a marker. A handler that crashes, live or
  in replay, ends the run's task on the spot.
* Cancelling closes the run as cancelled; a run some other party already closed counts as
  closed.
-/

namespace SlotKeeper.Engine

open Json Workflow Store

/-- The name recorded for the periodic timer. -/
def timerId : String := "tick"

/-- When a run is continued as new. -/
structure Limits where
  /-- Continue once the run is older than this. -/
  continueAfter : Span
  /-- Continue once the log holds this many events (at least two). -/
  maxEvents : Nat
  deriving Repr

namespace Limits

/-- A day, and ten thousand events. -/
def default : Limits := ⟨Span.ofSeconds 86400, 10000⟩

/-- Sets the event bound; bounds below two are raised to two. -/
def withMaxEvents (l : Limits) (n : Nat) : Limits := { l with maxEvents := max n 2 }

/-- Sets the age bound. -/
def withContinueAfter (l : Limits) (d : Span) : Limits := { l with continueAfter := d }

end Limits

/-- What the executor needs from its surroundings besides the store. -/
class Host (m : Type → Type) where
  /-- The current instant. -/
  now : m Instant
  /-- Hands a signal to the mailbox registered under an identity. -/
  deliver : String → Signal → m (Except DeliveryError Unit)

/-- A run being driven: its record, the program state, the next log position, and when the
timer fires next. -/
structure Live (σ : Type) where
  run : RunInfo
  state : σ
  sequence : Int
  nextTick : Instant

/-- Why the executor woke up. -/
inductive Wakeup where
  | cancelled
  | displaced
  | signal (s : Signal)
  | timer

/-- The next tick `interval` after an instant, or the last instant when that is past the end of
time. -/
def tickAfter (from_ : Instant) (interval : Span) : Instant :=
  (Instant.deadlineAfter from_ interval).getD Instant.max

/-- A log position read as an unsigned count, as positions are compared with the event bound. -/
def positionCount (sequence : Int) : Nat := (sequence % 18446744073709551616).toNat

/-- Whether a run is due to be continued as new at `now`. -/
def dueForContinuation {σ : Type} (limits : Limits) (now : Instant) (live : Live σ) : Bool :=
  decide (now.elapsedSince live.run.startedAt > limits.continueAfter) ||
    decide (positionCount live.sequence ≥ limits.maxEvents)

section

variable {m : Type → Type} [Monad m] [EventStore m] [Host m] {ι σ : Type}

/-- Lifts a store call, failing with its store error. -/
def stored {α : Type} (call : m (Except StoreError α)) : ExceptT ExecutorError m α :=
  ExceptT.mk ((fun r => r.mapError ExecutorError.store) <$> call)

/-- A state restored from a stored input, failing with a serialization error. -/
def restored (p : Program ι σ) (input : Json) : ExceptT ExecutorError m σ :=
  match p.restore input with
  | .ok s => pure s
  | .error e => throw (.serialization e.message)

/-- Sends the signals among `actions`; answers how many arrived. Best effort skips failures,
otherwise the first failure stops the delivery. -/
def sendAll (bestEffort : Bool) : List Action → Nat → ExceptT ExecutorError m Nat
  | [], n => pure n
  | .idle :: rest, n => sendAll bestEffort rest n
  | .send target signal :: rest, n => do
    match ← (Host.deliver target signal : m _) with
    | .ok () => sendAll bestEffort rest (n + 1)
    | .error e => if bestEffort then sendAll bestEffort rest n else throw (.delivery e)

/-- Delivers actions, then appends the delivery marker with the count delivered. -/
def deliver (live : Live σ) (actions : List Action) (bestEffort : Bool) :
    ExceptT ExecutorError m (Live σ) := do
  let count ← sendAll bestEffort actions 0
  let sequence ← stored (EventStore.appendEvents live.run.run live.sequence [.delivered count])
  pure { live with sequence }

/-- Appends an input event, applies it, and delivers its actions if there are any. -/
def process (p : Program ι σ) (live : Live σ) (e : Event) : ExceptT ExecutorError m (Live σ) := do
  let sequence ← stored (EventStore.appendEvents live.run.run live.sequence [e])
  let (state, actions) ← match p.apply live.state e with
    | .ok r => pure r
    | .error fault => throw (.crashed fault)
  let live := { live with sequence, state }
  if actions.isEmpty then pure live else deliver live actions false

/-- Replays the events after the start: the state after every input, and the actions of the last
input that no delivery marker follows. A terminal event is a replay error. -/
def replayInputs (p : Program ι σ) (run : RunInfo) :
    σ → List Action → List Event → Except ExecutorError (σ × List Action)
  | s, pending, [] => .ok (s, pending)
  | s, pending, e :: rest =>
    match e with
    | .signalled .. | .ticked .. =>
      match p.apply s e with
      | .ok (s, actions) => replayInputs p run s actions rest
      | .error fault => .error (.crashed fault)
    | .delivered _ => replayInputs p run s [] rest
    | _ =>
      if e.isTerminal then
        .error (.replay ("running run " ++ run.run.render ++ " contains terminal event " ++
          e.typeName))
      else replayInputs p run s pending rest

/-- Rebuilds a running run from its log and delivers its pending actions again, best effort. -/
def replay (p : Program ι σ) (run : RunInfo) : ExceptT ExecutorError m (Live σ) := do
  let events ← stored (EventStore.loadEvents run.run)
  match events with
  | (_, .started input _) :: rest =>
    let s ← restored p input
    let (s, pending) ← ExceptT.mk (pure (replayInputs p run s [] (rest.map (·.2))))
    let now ← (Host.now : m _)
    let live : Live σ := ⟨run, s, Memory.sequenceOf events.length, tickAfter now (p.interval s)⟩
    if pending.isEmpty then pure live else deliver live pending true
  | _ => throw (.replay "first event must be WorkflowStarted")

/-- Recovers the workflow's running run when it has the program's type, or starts a fresh run
from `input` at the current instant. -/
def recoverOrStart (p : Program ι σ) (workflow : String) (input : ι) :
    ExceptT ExecutorError m (Live σ) := do
  let current ← stored (EventStore.currentRun workflow)
  match current with
  | some run =>
    if run.status.isRunning then
      if run.workflowType != p.typeName then
        throw (.typeMismatch workflow p.typeName run.workflowType)
      else replay p run
    else start
  | none => start
where
  /-- Starts a fresh run. -/
  start : ExceptT ExecutorError m (Live σ) := do
    let now ← (Host.now : m _)
    let run ← stored (EventStore.startRun workflow p.typeName (p.encode input) now)
    let s := p.new input
    pure ⟨run, s, 1, tickAfter run.startedAt (p.interval s)⟩

/-- Closes the run and starts its successor from the snapshot; the tick schedule carries over. -/
def continueAsNew (p : Program ι σ) (live : Live σ) : ExceptT ExecutorError m (Live σ) := do
  let snapshot := p.encode (p.snapshot live.state)
  let now ← (Host.now : m _)
  let successor ← stored (EventStore.continueAsNew live.run.run snapshot now)
  let s ← restored p successor.input
  pure ⟨successor, s, 1, live.nextTick⟩

/-- Continues the run as new when it is due. The successor starts now with one event, so it is
never due itself. -/
def settle (p : Program ι σ) (limits : Limits) (live : Live σ) : ExceptT ExecutorError m (Live σ) := do
  let now ← (Host.now : m _)
  if dueForContinuation limits now live then continueAsNew p live else pure live

/-- Closes a run; a run that is already closed counts as closed. -/
def close (run : RunInfo) (status : Status) (reason : String) : ExceptT ExecutorError m Unit := do
  match ← (EventStore.closeRun run.run status reason : m _) with
  | .ok () => pure ()
  | .error (.runClosed ..) => pure ()
  | .error e => throw (.store e)

/-- Handles a wake-up: cancellation closes the run and ends the loop (`none`); a signal or a tick
is processed, and a tick sets the next one an interval after it fired. -/
def handle (p : Program ι σ) (workflow : String) (live : Live σ) :
    Wakeup → ExceptT ExecutorError m (Option (Live σ))
  | .cancelled => do
    close live.run .cancelled "cancelled by owner"
    pure none
  | .displaced => throw (.mailboxClosed workflow)
  | .signal s => do
    let now ← (Host.now : m _)
    pure (some (← process p live (.signalled s now)))
  | .timer => do
    let now ← (Host.now : m _)
    let live ← process p live (.ticked timerId now)
    pure (some { live with nextTick := tickAfter now (p.interval live.state) })

/-- Terminates the workflow's latest run if it is running; answers its id. -/
def terminate (workflow reason : String) : ExceptT ExecutorError m (Option Uuid) := do
  match ← stored (EventStore.currentRun workflow) with
  | some run =>
    if run.status.isRunning then
      stored (EventStore.closeRun run.run .terminated reason)
      pure (some run.run)
    else pure none
  | none => pure none

/-- A run whose owner cancelled it before it began: recover or start, continue as new if due,
then close as cancelled. -/
def runCancelled (p : Program ι σ) (limits : Limits) (workflow : String) (input : ι) :
    ExceptT ExecutorError m Unit := do
  let live ← recoverOrStart p workflow input
  let live ← settle p limits live
  close live.run .cancelled "cancelled by owner"

end

end SlotKeeper.Engine
