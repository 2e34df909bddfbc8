import SlotKeeper.Store.Run

/-!
# The SQL event store

The SQL store keeps runs and events in two tables and talks to its database one statement at a
time. Here the database is a `Session`: a script of replies for each kind of statement, taken in
order (a kind whose script is used up answers a query with no rows and anything else with
success), and the log of the statements sent, with their parameters.

Each store operation is a fixed sequence of statements:

* starting a run inserts the run and its `workflow_started` event in one transaction; a unique
  violation on the run insert means the workflow already has a running run;
* finding the current run selects the latest run of the workflow;
* appending, continuing and closing lock the run row, read the next sequence number and write
  inside one transaction;
* loading selects the events of a run in order, and no events at all means no such run.

A transaction that began but was not committed is rolled back, also after a failed commit or a
crash. Reading SQL `NULL` where a value is required crashes the calling task (`SqlM` carries the
crash text as its exception).
-/

namespace SlotKeeper.Store.Sql

open Json Workflow

/-- The kinds of statements the store sends. -/
inductive Kind where
  | begin | commit | rollback | schema
  | insertRun | insertEvent | lockRun | nextSeq | markClosed | currentRun | loadEvents
  deriving DecidableEq, Repr, Inhabited

namespace Kind

/-- Every kind. -/
def all : List Kind :=
  [.begin, .commit, .rollback, .schema, .insertRun, .insertEvent, .lockRun, .nextSeq, .markClosed,
    .currentRun, .loadEvents]

/-- The name of a kind. -/
def name : Kind → String
  | .begin => "begin"
  | .commit => "commit"
  | .rollback => "rollback"
  | .schema => "schema"
  | .insertRun => "insert_run"
  | .insertEvent => "insert_event"
  | .lockRun => "lock_run"
  | .nextSeq => "next_seq"
  | .markClosed => "mark_closed"
  | .currentRun => "current_run"
  | .loadEvents => "load_events"

/-- The kind with this name. -/
def ofName? (s : String) : Option Kind := all.find? (·.name == s)

/-- Whether the kind is a query that returns rows. -/
def selects : Kind → Bool
  | .lockRun | .nextSeq | .currentRun | .loadEvents => true
  | _ => false

end Kind

/-- A column type of a result row. -/
inductive ColumnType where
  | text | int | json | uuid | timestamp
  deriving DecidableEq, Repr

/-- The result columns of each kind that returns rows. -/
def columns : Kind → List (String × ColumnType)
  | .lockRun => [("workflow_id", .text), ("workflow_type", .text), ("status", .text),
      ("input", .json), ("started_at", .timestamp)]
  | .nextSeq => [("next_seq", .int)]
  | .currentRun => [("run_id", .uuid), ("workflow_type", .text), ("status", .text),
      ("input", .json), ("started_at", .timestamp)]
  | .loadEvents => [("sequence_num", .int), ("event_data", .json)]
  | _ => []

/-- A bound parameter or a result value. -/
inductive Value where
  | text (s : String)
  | int (n : Int)
  | json (j : Json)
  | uuid (u : Uuid)
  | timestamp (t : Instant)
  | null
  deriving Inhabited

/-- A value as it is shown in the log. -/
def Value.toJson : Value → Json
  | .text s => .string s
  | .int n => Json.int n
  | .json j => j
  | .uuid u => .string u.render
  | .timestamp t => t.toJson
  | .null => .null

/-- A timestamp as the database keeps it: whole microseconds. -/
def stored (t : Instant) : Value := .timestamp t.truncateMicros

/-- The database's reply to a statement. -/
inductive Outcome where
  | done
  | rows (rows : List (List Value))
  | failed (code message : String)
  deriving Inhabited

/-- A statement as sent: its kind and, for prepared statements, its parameters. -/
structure Statement where
  kind : Kind
  params : Option (List Value)
  deriving Inhabited

/-- The statement as a log entry. -/
def Statement.toJson (s : Statement) : Json :=
  match s.params with
  | some ps => Json.record [("sql", .string s.kind.name), ("params", .array (ps.map Value.toJson))]
  | none => Json.record [("sql", .string s.kind.name)]

/-- The database as the store sees it. -/
structure Session where
  /-- Whether a connection can be made at all. -/
  reachable : Bool
  /-- The replies still to give, by kind. -/
  script : List (Kind × List Outcome)
  /-- The statements received, oldest first. -/
  log : List Statement
  /-- How many run ids were minted. -/
  minted : Nat
  deriving Inhabited

/-- Store work against a session; the exception is the text of a crash. -/
abbrev SqlM := EStateM String Session

/-- The text of a failure to reach the database. -/
def unreachableText : String :=
  "error communicating with database: No such file or directory (os error 2)"

/-- The next scripted reply for a kind. -/
def nextReply (kind : Kind) : SqlM Outcome := modifyGet fun s =>
  match s.script.find? (·.1 == kind) with
  | some (_, r :: rest) =>
    (r, { s with script := s.script.map fun (k, rs) => if k == kind then (k, rest) else (k, rs) })
  | _ => (if kind.selects then .rows [] else .done, s)

/-- Sends a statement; answers the rows, or the text of the failure. -/
def send (kind : Kind) (params : Option (List Value)) : SqlM (Except String (List (List Value))) := do
  let s ← get
  if !s.reachable then return .error unreachableText
  set { s with log := s.log ++ [Statement.mk kind params] }
  match ← nextReply kind with
  | .done => pure (.ok [])
  | .rows rs => pure (.ok rs)
  | .failed _ message => pure (.error ("error returned from database: " ++ message))

/-- Sends a statement; a failure is a database error. -/
def exec (kind : Kind) (params : Option (List Value)) :
    SqlM (Except StoreError (List (List Value))) := do
  pure ((← send kind params).mapError StoreError.database)

/-- The crash of reading `NULL` from a required column. -/
def nullCrash (column : String) : String :=
  "called `Result::unwrap()` on an `Err` value: ColumnDecode \x7b index: \"\\\"" ++ column ++
    "\\\"\", source: UnexpectedNullError \x7d"

/-- The value of a named column of a row; `NULL` crashes. -/
def cell (kind : Kind) (row : List Value) (column : String) : SqlM Value := do
  let i := ((columns kind).findIdx? (·.1 == column)).getD 0
  match row[i]? with
  | some .null | none => throw (nullCrash column)
  | some v => pure v

/-- A text column. -/
def textCell (kind : Kind) (row : List Value) (column : String) : SqlM String := do
  match ← cell kind row column with
  | .text s => pure s
  | _ => throw (nullCrash column)

/-- An integer column. -/
def intCell (kind : Kind) (row : List Value) (column : String) : SqlM Int := do
  match ← cell kind row column with
  | .int n => pure n
  | _ => throw (nullCrash column)

/-- A JSON column. -/
def jsonCell (kind : Kind) (row : List Value) (column : String) : SqlM Json := do
  match ← cell kind row column with
  | .json j => pure j
  | _ => throw (nullCrash column)

/-- A UUID column. -/
def uuidCell (kind : Kind) (row : List Value) (column : String) : SqlM Uuid := do
  match ← cell kind row column with
  | .uuid u => pure u
  | _ => throw (nullCrash column)

/-- A timestamp column. -/
def timeCell (kind : Kind) (row : List Value) (column : String) : SqlM Instant := do
  match ← cell kind row column with
  | .timestamp t => pure t
  | _ => throw (nullCrash column)

/-- Rolls back the open transaction; its reply does not matter. -/
def rollback : SqlM Unit := do
  let _ ← send .rollback none

/-- Runs `body` in a transaction: a failure, a crash or a failed commit after a successful begin
is followed by a rollback. -/
def transaction {α : Type} (body : SqlM (Except StoreError α)) : SqlM (Except StoreError α) := do
  match ← exec .begin none with
  | .error e => pure (.error e)
  | .ok _ =>
    let r ← tryCatch body fun crash => do
      rollback
      throw crash
    match r with
    | .error e =>
      rollback
      pure (.error e)
    | .ok a =>
      match ← exec .commit none with
      | .ok _ => pure (.ok a)
      | .error e =>
        rollback
        pure (.error e)

/-- The sum of two signed 32-bit numbers; overflow crashes. -/
def addI32 (a b : Int) : SqlM Int :=
  if a + b > 2147483647 ∨ a + b < -2147483648 then throw "attempt to add with overflow"
  else pure (a + b)

/-- Inserts one event at a position. -/
def insertEvent (run : Uuid) (sequence : Int) (e : Event) : SqlM (Except StoreError Unit) := do
  let r ← exec .insertEvent
    (some [.uuid run, .int sequence, .text e.typeName, .json e.toJson])
  pure (r.map fun _ => ())

/-- Inserts a run and its start event under a fresh id; a unique violation on the run means the
workflow already has a running run. -/
def insertRun (workflow workflowType : String) (input : Json) (startedAt : Instant) :
    SqlM (Except StoreError RunInfo) := do
  let id := Uuid.minted (← get).minted
  modify fun s => { s with minted := s.minted + 1 }
  let params := [.uuid id, .text workflow, .text workflowType, .json input, stored startedAt]
  let s ← get
  if !s.reachable then return .error (.database unreachableText)
  set { s with log := s.log ++ [Statement.mk .insertRun (some params)] }
  match ← nextReply .insertRun with
  | .failed code message =>
    if code == "23505" then pure (.error (.runAlreadyActive workflow id))
    else pure (.error (.database ("error returned from database: " ++ message)))
  | _ =>
    match ← insertEvent id 0 (.started input startedAt) with
    | .error e => pure (.error e)
    | .ok () => pure (.ok ⟨workflow, id, workflowType, .running, input, startedAt⟩)

/-- Creates the tables if they are missing. -/
def ensureSchema : SqlM (Except StoreError Unit) := do
  pure ((← exec .schema none).map fun _ => ())

/-- Starts a run of a workflow. -/
def startRun (workflow workflowType : String) (input : Json) (startedAt : Instant) :
    SqlM (Except StoreError RunInfo) :=
  transaction (insertRun workflow workflowType input startedAt)

/-- The latest run of a workflow, read from the first row. -/
def currentRun (workflow : String) : SqlM (Except StoreError (Option RunInfo)) := do
  match ← exec .currentRun (some [.text workflow]) with
  | .error e => pure (.error e)
  | .ok [] => pure (.ok none)
  | .ok (row :: _) =>
    let k := Kind.currentRun
    let run ← uuidCell k row "run_id"
    let workflowType ← textCell k row "workflow_type"
    match Status.parse (← textCell k row "status") with
    | .error e => pure (.error e)
    | .ok status =>
      let input ← jsonCell k row "input"
      let startedAt ← timeCell k row "started_at"
      pure (.ok (some ⟨workflow, run, workflowType, status, input, startedAt⟩))

/-- Locks a run's row, checks that it is running and reads its next sequence number. -/
def lockRunning (run : Uuid) : SqlM (Except StoreError (RunInfo × Int)) := do
  match ← exec .lockRun (some [.uuid run]) with
  | .error e => pure (.error e)
  | .ok [] => pure (.error (.runNotFound run))
  | .ok (row :: _) =>
    let k := Kind.lockRun
    match Status.parse (← textCell k row "status") with
    | .error e => pure (.error e)
    | .ok status =>
      if !status.isRunning then return .error (.runClosed run status)
      let workflow ← textCell k row "workflow_id"
      let workflowType ← textCell k row "workflow_type"
      let input ← jsonCell k row "input"
      let startedAt ← timeCell k row "started_at"
      let info : RunInfo := ⟨workflow, run, workflowType, status, input, startedAt⟩
      match ← exec .nextSeq (some [.uuid run]) with
      | .error e => pure (.error e)
      | .ok [] =>
        pure (.error (.database "no rows returned by a query that expected to return at least one row"))
      | .ok (seqRow :: _) => pure (.ok (info, ← intCell .nextSeq seqRow "next_seq"))

/-- Records a run as closed. -/
def markClosed (run : Uuid) (status : Status) (reason : String) : SqlM (Except StoreError Unit) := do
  pure ((← exec .markClosed (some [.uuid run, .text status.name, .text reason])).map fun _ => ())

/-- Inserts events at consecutive positions from `next`; answers the position after the last. -/
def insertEvents (run : Uuid) : Int → List Event → SqlM (Except StoreError Int)
  | next, [] => pure (.ok next)
  | next, e :: rest => do
    match ← insertEvent run next e with
    | .error err => pure (.error err)
    | .ok () => insertEvents run (← addI32 next 1) rest

/-- Appends events to a running run whose next position is `expected`. -/
def appendEvents (run : Uuid) (expected : Int) (events : List Event) :
    SqlM (Except StoreError Int) :=
  transaction do
    match ← lockRunning run with
    | .error e => pure (.error e)
    | .ok (_, next) =>
      if next != expected then pure (.error (.conflict expected next))
      else insertEvents run next events

/-- The events of a run in order; a run with no events is unknown. -/
def loadEvents (run : Uuid) : SqlM (Except StoreError (List (Int × Event))) := do
  match ← exec .loadEvents (some [.uuid run]) with
  | .error e => pure (.error e)
  | .ok rows =>
    let rec readRows : List (List Value) → SqlM (Except StoreError (List (Int × Event)))
      | [] => pure (.ok [])
      | row :: more => do
        let seq ← intCell .loadEvents row "sequence_num"
        let data ← jsonCell .loadEvents row "event_data"
        match Json.decode Event.decoder data with
        | .error e => pure (.error (.serialization e.message))
        | .ok e =>
          match ← readRows more with
          | .error err => pure (.error err)
          | .ok rest => pure (.ok ((seq, e) :: rest))
    match ← readRows rows with
    | .error e => pure (.error e)
    | .ok [] => pure (.error (.runNotFound run))
    | .ok events => pure (.ok events)

/-- Closes a running run and starts its successor with the snapshot as input. -/
def continueAsNew (run : Uuid) (snapshot : Json) (startedAt : Instant) :
    SqlM (Except StoreError RunInfo) :=
  transaction do
    match ← lockRunning run with
    | .error e => pure (.error e)
    | .ok (info, next) =>
      match ← insertEvent run next (.continued snapshot) with
      | .error e => pure (.error e)
      | .ok () =>
        match ← markClosed run .continuedAsNew "continued as new" with
        | .error e => pure (.error e)
        | .ok () => insertRun info.workflow info.workflowType snapshot startedAt

/-- Closes a running run with a final status, recording why. -/
def closeRun (run : Uuid) (status : Status) (reason : String) : SqlM (Except StoreError Unit) :=
  transaction do
    match ← lockRunning run with
    | .error e => pure (.error e)
    | .ok (_, next) =>
      let recorded ← match closingEvent status reason with
        | some e => insertEvent run next e
        | none => pure (.ok ())
      match recorded with
      | .error e => pure (.error e)
      | .ok () => markClosed run status reason

instance : EventStore SqlM where
  startRun := startRun
  currentRun := currentRun
  appendEvents := appendEvents
  loadEvents := loadEvents
  continueAsNew := continueAsNew
  closeRun := closeRun

end SlotKeeper.Store.Sql
