import SlotKeeper.Store.Run

/-!
# The in-memory event store

`Memory` keeps every run with its history, and for each workflow id its latest run. New run ids
are minted from a counter (`Uuid.minted`), so two runs never share an id.

Continuing a run as new removes the old run and starts its successor with the snapshot as input;
closing a run records the closing event its status calls for and sets the status, even to
`running`. Appends check the expected position against the number of events.
-/

namespace SlotKeeper.Store

open Json Workflow

/-- One stored run. -/
structure StoredRun where
  info : RunInfo
  events : List Event
  deriving Inhabited

/-- Runs by id, the latest run of each workflow, and the count of ids minted. -/
structure Memory where
  runs : List (Uuid × StoredRun)
  latest : List (String × Uuid)
  minted : Nat
  deriving Inhabited

namespace Memory

/-- An empty store. -/
def empty : Memory := ⟨[], [], 0⟩

/-- The run with this id. -/
def find? (s : Memory) (id : Uuid) : Option StoredRun := (s.runs.find? (·.1 == id)).map (·.2)

/-- Replaces or adds the run with this id. -/
def put (s : Memory) (id : Uuid) (r : StoredRun) : Memory :=
  { s with runs := (s.runs.filter (·.1 != id)) ++ [(id, r)] }

/-- Removes the run with this id. -/
def drop (s : Memory) (id : Uuid) : Memory := { s with runs := s.runs.filter (·.1 != id) }

/-- The latest run id of a workflow. -/
def latestOf (s : Memory) (workflow : String) : Option Uuid :=
  (s.latest.find? (·.1 == workflow)).map (·.2)

/-- The number of runs kept. -/
def runCount (s : Memory) : Nat := s.runs.length

/-- The number of events of a run, zero for an unknown run. -/
def eventCount (s : Memory) (id : Uuid) : Nat := ((s.find? id).map (·.events.length)).getD 0

/-- Forgets every run. -/
def clear (s : Memory) : Memory := { s with runs := [], latest := [] }

/-- Starts a run with a fresh id and records it as its workflow's latest. -/
def insertRun (s : Memory) (workflow workflowType : String) (input : Json) (at_ : Instant) :
    RunInfo × Memory :=
  let id := Uuid.minted s.minted
  let info : RunInfo := ⟨workflow, id, workflowType, .running, input, at_⟩
  let s := { s with minted := s.minted + 1 }
  let s := s.put id ⟨info, [.started input at_]⟩
  (info, { s with latest := (s.latest.filter (·.1 != workflow)) ++ [(workflow, id)] })

/-- The run with this id, if it is still running. -/
def running (s : Memory) (id : Uuid) : Except StoreError StoredRun :=
  match s.find? id with
  | none => .error (.runNotFound id)
  | some r => if r.info.status.isRunning then .ok r else .error (.runClosed id r.info.status)

/-- Starts a run unless the workflow's latest run is running. -/
def startRun (s : Memory) (workflow workflowType : String) (input : Json) (at_ : Instant) :
    Except StoreError RunInfo × Memory :=
  let active := (s.latestOf workflow).bind fun id =>
    match s.find? id with
    | some r => if r.info.status.isRunning then some id else none
    | none => none
  match active with
  | some id => (.error (.runAlreadyActive workflow id), s)
  | none =>
    let (info, s) := s.insertRun workflow workflowType input at_
    (.ok info, s)

/-- The latest run of a workflow. -/
def currentRun (s : Memory) (workflow : String) : Option RunInfo :=
  (s.latestOf workflow).bind fun id => (s.find? id).map (·.info)

/-- The number of events as a signed 32-bit count. -/
def sequenceOf (n : Nat) : Int :=
  let w : Nat := n % 4294967296
  if w < 2147483648 then w else (w : Int) - 4294967296

/-- Appends events when the history has exactly `expected` events; answers the new count. -/
def appendEvents (s : Memory) (id : Uuid) (expected : Int) (events : List Event) :
    Except StoreError Int × Memory :=
  match s.running id with
  | .error e => (.error e, s)
  | .ok r =>
    let current := sequenceOf r.events.length
    if current ≠ expected then (.error (.conflict expected current), s)
    else
      let r := { r with events := r.events ++ events }
      (.ok (sequenceOf r.events.length), s.put id r)

/-- The history of a run, numbered from zero. -/
def loadEvents (s : Memory) (id : Uuid) : Except StoreError (List (Int × Event)) :=
  match s.find? id with
  | none => .error (.runNotFound id)
  | some r => .ok (r.events.zipIdx.map fun (e, i) => (sequenceOf i, e))

/-- Replaces a running run by a successor that starts from `snapshot`. -/
def continueAsNew (s : Memory) (id : Uuid) (snapshot : Json) (at_ : Instant) :
    Except StoreError RunInfo × Memory :=
  match s.running id with
  | .error e => (.error e, s)
  | .ok r =>
    let (info, s) := (s.drop id).insertRun r.info.workflow r.info.workflowType snapshot at_
    (.ok info, s)

/-- Closes a running run with a status, recording the closing event it calls for. -/
def closeRun (s : Memory) (id : Uuid) (status : Status) (reason : String) :
    Except StoreError Unit × Memory :=
  match s.running id with
  | .error e => (.error e, s)
  | .ok r =>
    let events := r.events ++ (closingEvent status reason).toList
    (.ok (), s.put id ⟨{ r.info with status := status }, events⟩)

end Memory

end SlotKeeper.Store
