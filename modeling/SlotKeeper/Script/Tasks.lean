import SlotKeeper.Pool.Supervisor
import SlotKeeper.Pool.Client
import SlotKeeper.Workflow.Echo

/-!
# The tasks of a process hosting the pool

The scene of the executor requests: one shared world and the tasks running on it.

* the run loop started by a `run` step, driving the coordinator or the echo workflow;
* the admin's supervised coordinator, and a second supervisor held on its own;
* pool clients that are idle, and acquisitions in progress;
* heartbeat loops;
* recording mailboxes, which note every signal they receive and refuse every query;
* queries asked without waiting for the answer.

The tasks run one at a time. `settle` runs the tasks that can make progress, each until it has
to wait, until none can. The runtime's own time passes only when every task waits: `passTime`
moves it from timer to timer, running the tasks each timer wakes.
-/

namespace SlotKeeper.Script.Tasks

open Json Workflow Engine Pool Store Backoff

/-- A run loop of one of the two programs. -/
inductive Job where
  | pool (d : Driving Coordinator)
  | echo (d : Driving Nat)

/-- The run loop started by a `run` step: still running (and whether cancelled), or ended with an
outcome not yet reported. -/
inductive Loop where
  | live (job : Job) (cancelled : Bool)
  | ended (outcome : Except ExecutorError Unit)

/-- A recording mailbox; `live` is false once it was displaced and drained. -/
structure Recorder where
  identity : String
  mailbox : Nat
  live : Bool

/-- The heartbeat loop of a client; a client has at most one, as a newer loop stops the older. -/
structure Beat where
  owner : String
  loop : Heartbeats

/-- An acquisition in progress by a client. -/
structure Pending where
  owner : String
  client : Client
  acquisition : Acquisition

/-- How an acquisition ended: with its outcome, or crashed, which loses its client. -/
inductive Ended where
  | answered (outcome : Except PoolError Response)
  | crashed

/-- The scene: the world and its tasks, and what was seen but not yet reported. -/
structure Scene where
  world : World
  loop : Option Loop
  admin : Option Supervisor
  bare : Option Supervisor
  clients : List (String × Client)
  pending : List Pending
  acquired : List (String × Ended)
  beats : List Beat
  recorders : List Recorder
  records : List (String × Json)
  asked : Nat
  waiting : List (Nat × Nat)
  answers : List (Nat × Except QueryError Json)
  seen : List Uuid
  shown : Option (Uuid × Nat)

/-- A task of the scene. -/
inductive Task where
  | loop
  | admin
  | bare
  | acquisition (i : Nat)
  | beat (i : Nat)
  | recorder (i : Nat)
  deriving DecidableEq

namespace Job

/-- Whether the loop can make progress. -/
def ready (w : World) (cancelled : Bool) : Job → Bool
  | .pool d => d.ready w cancelled
  | .echo d => d.ready w cancelled

/-- Handles one wake-up. -/
def poll (cancelled : Bool) : Job → WorldM (Sum Job (Except ExecutorError Unit))
  | .pool d => do
    match ← d.poll coordinator cancelled with
    | .waiting d => pure (.inl (.pool d))
    | .finished r => pure (.inr r)
  | .echo d => do
    match ← d.poll Workflow.echo cancelled with
    | .waiting d => pure (.inl (.echo d))
    | .finished r => pure (.inr r)

/-- The mailbox the loop owns. -/
def mailbox : Job → Nat
  | .pool d => d.mailbox
  | .echo d => d.mailbox

end Job

namespace Scene

/-- A scene with a fresh world and no tasks. -/
def fresh (start : Instant) (limits : Limits) : Scene :=
  ⟨World.fresh start limits, none, none, none, [], [], [], [], [], [], 0, [], [], [], none⟩

/-- Runs world work. -/
def onWorld {α : Type} (sc : Scene) (work : WorldM α) : α × Scene :=
  let (a, w) := work.run sc.world
  (a, { sc with world := w })

/-- Registers a recording mailbox. -/
def record (sc : Scene) (identity : String) : Nat × Scene :=
  let (g, sc) := sc.onWorld (World.onBus (·.register identity))
  (g, { sc with recorders := sc.recorders.filter (·.identity != identity) ++
    [⟨identity, g, true⟩] })

/-- The tasks, in the order they are considered. -/
def tasks (sc : Scene) : List Task :=
  [.loop, .admin, .bare] ++ (List.range sc.pending.length).map Task.acquisition ++
    (List.range sc.beats.length).map Task.beat ++
    (List.range sc.recorders.length).map Task.recorder

/-- Whether a task can make progress. -/
def ready (sc : Scene) : Task → Bool
  | .loop =>
    match sc.loop with
    | some (.live job cancelled) => job.ready sc.world cancelled
    | _ => false
  | .admin => (sc.admin.map (Supervisor.ready sc.world)).getD false
  | .bare => (sc.bare.map (Supervisor.ready sc.world)).getD false
  | .acquisition i =>
    match sc.pending[i]? with
    | some p => Client.ready sc.world p.client p.acquisition
    | none => false
  | .beat i => ((sc.beats[i]?).map fun b => b.loop.ready sc.world).getD false
  | .recorder i =>
    match sc.recorders[i]? with
    | some r => r.live && sc.world.bus.ready r.mailbox
    | none => false

/-- Notes what a recording mailbox received. -/
def note (sc : Scene) (identity : String) (entry : Json) : Scene :=
  { sc with records := sc.records ++ [(identity, entry)] }

/-- Lets a recording mailbox take its next item. -/
def pollRecorder (sc : Scene) (i : Nat) (r : Recorder) : Scene :=
  let (item, sc) := sc.onWorld (World.onBus (·.next r.mailbox))
  match item with
  | some (.query q) =>
    let sc := sc.onWorld (World.changeBus (·.answer q.ticket
      (.error (.rejected (Fault.final "client does not answer queries")))))
    (sc.2.note r.identity (Json.record [("query", .string q.name)]))
  | some (.signal s) => sc.note r.identity s.toJsonUnstamped
  | some .closed =>
    let sc := (sc.onWorld (World.changeBus (·.release r.mailbox))).2
    { sc with recorders := sc.recorders.set i { r with live := false } }
  | none => sc

/-- Handles one wake-up of a task. -/
def poll (sc : Scene) : Task → Scene
  | .loop =>
    match sc.loop with
    | some (.live job cancelled) =>
      let (r, sc) := sc.onWorld (job.poll cancelled)
      match r with
      | .inl job => { sc with loop := some (.live job cancelled) }
      | .inr outcome => { sc with loop := some (.ended outcome) }
    | _ => sc
  | .admin =>
    match sc.admin with
    | some s =>
      let (s, sc) := sc.onWorld s.poll
      { sc with admin := some s }
    | none => sc
  | .bare =>
    match sc.bare with
    | some s =>
      let (s, sc) := sc.onWorld s.poll
      { sc with bare := some s }
    | none => sc
  | .acquisition i =>
    match sc.pending[i]? with
    | some p =>
      let (r, sc) := sc.onWorld (p.client.poll p.acquisition)
      match r with
      | .going a => { sc with pending := sc.pending.set i { p with acquisition := a } }
      | .done outcome =>
        { sc with pending := sc.pending.eraseIdx i,
                  clients := sc.clients.filter (·.1 != p.owner) ++ [(p.owner, p.client)],
                  acquired := sc.acquired ++ [(p.owner, .answered outcome)] }
      | .crashed _ =>
        let sc := (sc.onWorld (World.changeBus (·.release p.client.mailbox))).2
        { sc with pending := sc.pending.eraseIdx i,
                  acquired := sc.acquired ++ [(p.owner, .crashed)] }
    | none => sc
  | .beat i =>
    match sc.beats[i]? with
    | some b =>
      let (h, sc) := sc.onWorld b.loop.poll
      { sc with beats := sc.beats.set i { b with loop := h } }
    | none => sc
  | .recorder i =>
    match sc.recorders[i]? with
    | some r => sc.pollRecorder i r
    | none => sc

/-- Polls a task while it can make progress, at most `fuel` times. -/
def drain (t : Task) : Nat → Scene → Scene
  | 0, sc => sc
  | fuel + 1, sc => if sc.ready t then drain t fuel (sc.poll t) else sc

/-- Runs the tasks that can make progress until none can, at most `fuel` rounds. -/
def settleWith : Nat → Scene → Scene
  | 0, sc => sc
  | fuel + 1, sc =>
    match sc.tasks.find? sc.ready with
    | some t => settleWith fuel (drain t 1000 sc)
    | none => sc

/-- Runs the tasks until every one waits. -/
def settle (sc : Scene) : Scene := settleWith 10000 sc

/-- The earliest runtime time a supervisor waits for. -/
def nextWake (sc : Scene) : Option Span :=
  let times := (sc.admin.bind Supervisor.wakeTime?).toList ++ (sc.bare.bind Supervisor.wakeTime?).toList
  times.foldl (fun acc t => match acc with
    | some a => some (if t.nanos < a.nanos then t else a)
    | none => some t) none

/-- Sets the runtime's time. -/
def setElapsed (sc : Scene) (t : Span) : Scene :=
  { sc with world := { sc.world with elapsed := t } }

/-- Lets runtime time pass up to `deadline`, timer by timer, until `done` holds; answers whether
it held. At most `fuel` timers fire. -/
def passTimeWith (done : Scene → Bool) (deadline : Span) : Nat → Scene → Scene × Bool
  | 0, sc => (sc, done sc)
  | fuel + 1, sc =>
    let sc := sc.settle
    if done sc then (sc, true)
    else
      match sc.nextWake with
      | some t =>
        if t.nanos ≤ deadline.nanos then
          passTimeWith done deadline fuel (sc.setElapsed ⟨max t.nanos sc.world.elapsed.nanos⟩)
        else ((sc.setElapsed deadline).settle, done (sc.setElapsed deadline).settle)
      | none =>
        let sc := (sc.setElapsed deadline).settle
        (sc, done sc)

/-- Lets runtime time pass for `span`, or until `done` holds. -/
def passTime (sc : Scene) (span : Span) (done : Scene → Bool) : Scene × Bool :=
  passTimeWith done ⟨sc.world.elapsed.nanos + span.nanos⟩ 100000 sc

end Scene

end SlotKeeper.Script.Tasks
