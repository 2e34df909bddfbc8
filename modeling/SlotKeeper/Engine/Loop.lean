import SlotKeeper.Engine.World

/-!
# The run loop as a resumable task

A run loop owns the mailbox of its workflow identity and drives one live run. Between wake-ups
it waits, in this order of preference, for its owner to cancel it, for its mailbox to hand out a
query, a signal or its closing, and for its timer to reach the next tick.

* `begin` registers the mailbox, recovers or starts the run and continues it as new if due.
* `poll` handles one wake-up: a query is answered from the current state; a signal or a tick is
  processed and the run continued as new if due; cancellation closes the run; a displaced
  mailbox ends the loop.

When the loop ends, for whatever reason, its mailbox is dropped.
-/

namespace SlotKeeper.Engine

open Json Workflow Store

/-- A run loop between wake-ups: the workflow identity, the generation of its mailbox, and the
live run. -/
structure Driving (σ : Type) where
  workflow : String
  mailbox : Nat
  live : Live σ

/-- A run loop after a step: still waiting, or ended with its outcome. -/
inductive Progress (σ : Type) where
  | waiting (d : Driving σ)
  | finished (outcome : Except ExecutorError Unit)

namespace Driving

variable {ι σ : Type}

/-- Ends the loop: drops the mailbox and reports the outcome. -/
def stop (d : Driving σ) (outcome : Except ExecutorError Unit) : WorldM (Progress σ) := do
  World.changeBus (·.release d.mailbox)
  pure (.finished outcome)

/-- Continues the run as new if due, then waits again. -/
def rest (p : Program ι σ) (d : Driving σ) : WorldM (Progress σ) := do
  let limits := (← get).limits
  match ← (settle p limits d.live).run with
  | .ok live => pure (.waiting { d with live })
  | .error e => d.stop (.error e)

/-- Starts a loop for `workflow`: registers its mailbox, recovers or starts the run, and continues
it as new if due. -/
def begin (p : Program ι σ) (workflow : String) (input : ι) : WorldM (Progress σ) := do
  let g ← World.onBus (·.register workflow)
  match ← (recoverOrStart p workflow input).run with
  | .ok live => rest p ⟨workflow, g, live⟩
  | .error e =>
    World.changeBus (·.release g)
    pure (.finished (.error e))

/-- Whether the loop has something to handle. -/
def ready (w : World) (cancelled : Bool) (d : Driving σ) : Bool :=
  cancelled || w.bus.ready d.mailbox || decide (d.live.nextTick ≤ w.clock.now)

/-- Handles one wake-up: cancellation first, then the mailbox, then the timer. -/
def poll (p : Program ι σ) (cancelled : Bool) (d : Driving σ) : WorldM (Progress σ) := do
  if cancelled then
    match ← (handle p d.workflow d.live .cancelled).run with
    | .ok _ => d.stop (.ok ())
    | .error e => d.stop (.error e)
  else
    match ← World.onBus (·.next d.mailbox) with
    | some (.query q) =>
      let answer := (p.onQuery d.live.state q.name).mapError QueryError.rejected
      World.changeBus (·.answer q.ticket answer)
      pure (.waiting d)
    | some (.signal s) => react (.signal s)
    | some .closed => d.stop (.error (.mailboxClosed d.workflow))
    | none =>
      if d.live.nextTick ≤ (← get).clock.now then react .timer else pure (.waiting d)
where
  /-- Processes a signal or a tick. -/
  react (w : Wakeup) : WorldM (Progress σ) := do
    match ← (handle p d.workflow d.live w).run with
    | .ok (some live) => rest p { d with live }
    | .ok none => d.stop (.ok ())
    | .error e => d.stop (.error e)

end Driving

end SlotKeeper.Engine
