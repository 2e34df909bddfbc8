import SlotKeeper.Engine.Executor
import SlotKeeper.Engine.Bus
import SlotKeeper.Store.Faulty
import SlotKeeper.Time.Clock

/-!
# The shared world of one process

Everything the tasks of one process share: the in-memory event store (seen through a fault plan
by the engine's own calls), the hand-driven clock, the signal bus, the executor's limits, a
counter for the request ids clients mint, and the time the runtime itself has let pass (its
timers, such as restart delays, run on that time and never on the hand-driven clock).

`WorldM` is work on that world. It is an event store (each call consults the fault plan first)
and a host (the clock's reading, and delivery over the bus), so the executor's steps run on it
unchanged.
-/

namespace SlotKeeper.Engine

open Json Workflow Store

/-- The state shared by the tasks of one process. -/
structure World where
  store : Memory
  faults : Faults
  clock : ManualClock
  bus : Bus
  limits : Limits
  requests : Nat
  elapsed : Span

/-- Work on the shared world. -/
abbrev WorldM := StateM World

namespace World

/-- A world with an empty store and bus, the clock at `start`. -/
def fresh (start : Instant) (limits : Limits) : World :=
  ⟨Memory.empty, Faults.none, ⟨start⟩, Bus.empty, limits, 0, Span.zero⟩

/-- Runs one store call through the fault plan. -/
def guarded {α : Type} (op : Operation) (call : Memory → Except StoreError α × Memory)
    (spoilt : α → α) : WorldM (Except StoreError α) :=
  modifyGet fun w =>
    let (faults, verdict) := w.faults.consult op
    match verdict with
    | .fail => (.error injected, { w with faults })
    | .pass =>
      let (r, store) := call w.store
      (r, { w with faults, store })
    | .dropFirst =>
      let (r, store) := call w.store
      (r.map spoilt, { w with faults, store })

/-- Runs bus work. -/
def onBus {α : Type} (f : Bus → Bus × α) : WorldM α :=
  modifyGet fun w =>
    let (bus, a) := f w.bus
    (a, { w with bus })

/-- Changes the bus. -/
def changeBus (f : Bus → Bus) : WorldM Unit :=
  modify fun w => { w with bus := f w.bus }

end World

instance : EventStore WorldM where
  startRun wf t input at_ :=
    World.guarded .startRun (fun s => s.startRun wf t input at_) id
  currentRun wf := World.guarded .currentRun (fun s => (.ok (s.currentRun wf), s)) id
  appendEvents r expected events :=
    World.guarded .appendEvents (fun s => s.appendEvents r expected events) id
  loadEvents r := World.guarded .loadEvents (fun s => (s.loadEvents r, s)) List.tail
  continueAsNew r snapshot at_ :=
    World.guarded .continueAsNew (fun s => s.continueAsNew r snapshot at_) id
  closeRun r status reason := World.guarded .closeRun (fun s => s.closeRun r status reason) id

instance : Host WorldM where
  now := do return (← get).clock.now
  deliver target s := World.onBus fun b => b.signal target s

end SlotKeeper.Engine
