import SlotKeeper.Pool.Supervisor

/-!
# The operator's surface

An admin hosts at most one supervised coordinator in its process. Starting keeps a hosted
supervisor that has not stopped and otherwise starts a new one; a capacity update is a signal to
the coordinator's identity.

A reset first shuts the hosted supervisor down: it cancels it and waits for it to stop, whatever
its outcome, while the other tasks of the process run. That waiting belongs to the process that
runs the tasks. What the reset does after it is `replace`: it terminates a coordinator run that is
still running, one left by a crashed process for instance, and starts a new supervisor. Its only
failure is the termination's.
-/

namespace SlotKeeper.Pool.Admin

open Json Workflow Engine

/-- Starts the hosted coordinator: a hosted supervisor that has not stopped is kept. -/
def start (hosted : Option Supervisor) (config : Config) : WorldM Supervisor :=
  match hosted with
  | some s => if s.isFinished then Supervisor.start config else pure s
  | none => Supervisor.start config

/-- Asks the coordinator to change its capacity. -/
def updateCapacity (n : Int) : WorldM (Except PoolError Unit) := do
  let now := (← get).clock.now
  let r ← World.onBus fun b => b.signal coordinatorId ⟨capacitySignal, capacityPayload n, now⟩
  pure (r.mapError PoolError.delivery)

/-- The reason recorded on a run a reset terminates. -/
def resetReason : String := "pool reset by operator"

/-- What a reset does once the hosted supervisor has stopped: terminates a coordinator run that
is still running and starts a new supervisor for `config`. -/
def replace (config : Config) : ExceptT PoolError WorldM Supervisor := do
  let _ ← (terminate coordinatorId resetReason : ExceptT ExecutorError WorldM _).adapt
    PoolError.executor
  Supervisor.start config

end SlotKeeper.Pool.Admin
