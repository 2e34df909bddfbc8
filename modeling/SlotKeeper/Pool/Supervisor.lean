import SlotKeeper.Engine.Loop
import SlotKeeper.Pool.Coordinator
import SlotKeeper.Pool.Failure
import SlotKeeper.Backoff.Policy

/-!
# The supervised coordinator

The supervisor runs the coordinator loop at the well-known identity and reruns it after a
failure a rerun can fix (a store or delivery failure), recovering the run from its log and
delivering again what it could not send. Between reruns it waits on the runtime's timer, starting
at a tenth of a second and doubling up to ten seconds. It stops for good when the loop ends
normally, on a failure a rerun cannot fix, and on any failure once it has been cancelled. The
count of failures stops at `2^32 - 1`; from `2^31` failures on, the wait's exponent overflows and
the supervising task panics, which stops it as a crash.

Cancelling a supervisor that is waiting to rerun reruns the loop at once, with its cancellation
already requested: the loop recovers the run, continues it as new first when it is due, and then
closes the run it holds, the recovered one or its successor, as cancelled.
-/

namespace SlotKeeper.Pool

open Json Workflow Engine Backoff

/-- The delays between reruns: from 100 ms, doubling, at most 10 s. -/
def restartPolicy : Policy :=
  (Policy.exponential.withInitialInterval (Span.ofMillis 100)).withMaxInterval (Span.ofSeconds 10)

/-- Where a supervisor stands. -/
inductive Stage where
  /-- The coordinator loop is running. -/
  | running (d : Driving Coordinator)
  /-- Waiting until the runtime's timer reaches `wake` to rerun the loop. -/
  | backingOff (wake : Span)
  /-- Stopped for good, with the outcome of the last run. -/
  | finished (outcome : Except ExecutorError Unit)

/-- A supervisor: the configuration of fresh runs, whether it was cancelled, the failures so far,
and its stage. -/
structure Supervisor where
  config : Config
  cancelled : Bool
  failures : Nat
  stage : Stage

namespace Supervisor

/-- The largest count of failures kept. -/
def failureCap : Nat := Nat.pow 2 32 - 1

/-- Decides what follows a run that ended with `outcome`. -/
def afterRun (s : Supervisor) (outcome : Except ExecutorError Unit) : WorldM Supervisor := do
  match outcome with
  | .ok () => pure { s with stage := .finished (.ok ()) }
  | .error e =>
    if !e.isRecoverable || s.cancelled then pure { s with stage := .finished (.error e) }
    else
      let failures := min (s.failures + 1) failureCap
      match restartPolicy.delayForAttempt (min (failures + 1) failureCap) with
      | .error crash => pure { s with failures, stage := .finished (.error (.crashed crash)) }
      | .ok delay =>
        let now := (← get).elapsed
        pure { s with failures, stage := .backingOff ⟨now.nanos + delay.nanos⟩ }

/-- Runs the coordinator loop once more. -/
def launch (s : Supervisor) : WorldM Supervisor := do
  match ← Driving.begin coordinator coordinatorId ⟨s.config, none⟩ with
  | .waiting d => pure { s with stage := .running d }
  | .finished outcome => s.afterRun outcome

/-- Starts supervising a coordinator with the given configuration. -/
def start (config : Config) : WorldM Supervisor := launch ⟨config, false, 0, .finished (.ok ())⟩

/-- Whether the supervisor has stopped for good. -/
def isFinished (s : Supervisor) : Bool :=
  match s.stage with
  | .finished _ => true
  | _ => false

/-- The outcome of a supervisor that stopped. -/
def outcome? (s : Supervisor) : Option (Except ExecutorError Unit) :=
  match s.stage with
  | .finished r => some r
  | _ => none

/-- Whether the supervisor has something to handle. -/
def ready (w : World) (s : Supervisor) : Bool :=
  match s.stage with
  | .running d => d.ready w s.cancelled
  | .backingOff wake => s.cancelled || decide (wake ≤ w.elapsed)
  | .finished _ => false

/-- The runtime time the supervisor waits for, if it is waiting to rerun. -/
def wakeTime? (s : Supervisor) : Option Span :=
  match s.stage with
  | .backingOff wake => some wake
  | _ => none

/-- Handles one wake-up. -/
def poll (s : Supervisor) : WorldM Supervisor := do
  match s.stage with
  | .running d =>
    match ← d.poll coordinator s.cancelled with
    | .waiting d => pure { s with stage := .running d }
    | .finished outcome => s.afterRun outcome
  | .backingOff wake =>
    if s.cancelled || wake ≤ (← get).elapsed then s.launch else pure s
  | .finished _ => pure s

/-- Requests cancellation. -/
def cancel (s : Supervisor) : Supervisor := { s with cancelled := true }

/-- Kills the supervisor without closing its run: a running loop's mailbox is dropped. -/
def abort (s : Supervisor) : WorldM Unit := do
  match s.stage with
  | .running d => World.changeBus (·.release d.mailbox)
  | _ => pure ()

end Supervisor

/-- The outcome of a supervisor as a pool result. A crash panics the supervising task, so it is
seen as a failed task, with the panic's message. -/
def supervisionResult (r : Except ExecutorError Unit) : Except PoolError Unit :=
  r.mapError fun
    | .crashed fault => .join ("task N panicked with message " ++ debugQuote fault)
    | e => .executor e

end SlotKeeper.Pool
