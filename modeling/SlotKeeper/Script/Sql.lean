import SlotKeeper.Store.Sql
import SlotKeeper.Engine.Executor
import SlotKeeper.Pool.Coordinator
import SlotKeeper.Script.Rename
import SlotKeeper.Script.Views

/-!
# Scripted SQL store

Runs the SQL store against a scripted database. The request's `db` gives, for each statement kind,
the replies to give in order: `{}` (no rows, or success), `{"rows": [[value, ...], ...]}` with one
value per result column, or `{"error": {"code", "message"}}`. A script that names an unknown kind,
gives rows to a statement without results, or has a row or value that does not fit the kind's
columns is refused before any step runs.

Every step answer carries `sql`, the statements the database received during the step.
Identifier texts that the request itself does not mention, such as the run ids the store mints,
are shown as `new#k`, numbered in the order the answers first show them: each step's `sql` first,
then its other members by key. Answers are scanned in 36-byte windows from each character
boundary; a window that ends inside a character crashes the whole request.

The executor steps run the coordinator over the store with a clock standing at `start`: a run
whose owner cancelled it up front (recovered or started, continued as new if due, then closed as
cancelled), and terminating the coordinator's running run.

The same steps against an unreachable database fail at their first statement, which is how the
request without a database (`postgres`) behaves.
-/

namespace SlotKeeper.Script.SqlRun

open Json Store Store.Sql Workflow Engine Pool

/-- The identity of the database's column types. -/
def typeId : ColumnType → Nat
  | .text => 25
  | .int => 23
  | .json => 3802
  | .uuid => 2950
  | .timestamp => 1184

/-- A scripted value read as a column of type `ty`; `null` fits every column. -/
def cellOf (ty : ColumnType) (v : Json) : Except Json Value :=
  let unfit : Except Json Value :=
    refuse ("value " ++ v.render ++ " does not fit column type " ++ toString (typeId ty))
  match ty, v with
  | _, .null => .ok .null
  | .text, .string s => .ok (.text s)
  | .int, .number (.unsigned n) => if n ≤ 2147483647 then .ok (.int n) else unfit
  | .int, .number (.signed n) =>
    if -2147483648 ≤ n ∧ n ≤ 2147483647 then .ok (.int n) else unfit
  | .json, j => .ok (.json j)
  | .uuid, .string s =>
    match Uuid.parse s with
    | .ok u => .ok (.uuid u)
    | .error _ => unfit
  | .timestamp, .string s =>
    match Instant.parse s with
    | .ok t => .ok (stored t)
    | .error _ => unfit
  | _, _ => unfit

/-- A scripted row of a kind. -/
def rowOf (kind : Kind) (row : List Json) : Except Json (List Value) := do
  let cols := columns kind
  if row.length != cols.length then
    refuse (kind.name ++ " rows have " ++ toString cols.length ++ " columns")
  else (cols.zip row).mapM fun (c, v) => cellOf c.2 v

/-- The refusal of a reply of none of the three forms. -/
def malformed {α : Type} : Except Json α :=
  refuse "a response is \x7b\"error\": ...\x7d, \x7b\"rows\": ...\x7d or \x7b\x7d"

/-- A scripted reply for a kind: a failure when it has `error` (whatever else it has), rows when
it has `rows`, and the default when it is empty. -/
def replyOf (kind : Kind) (r : Json) : Except Json Outcome :=
  match r with
  | .object members =>
    match r.field? "error" with
    | some e => do
      let code ← needText e "code"
      let message ← needText e "message"
      pure (.failed code message)
    | none =>
      match r.field? "rows" with
      | some v => do
        let rows ← decodeWith (listOf (listOf anyValue)) v
        if !kind.selects then refuse (kind.name ++ " returns no rows")
        else (rows.mapM (rowOf kind)).map Outcome.rows
      | none => if members.isEmpty then .ok .done else malformed
  | _ => malformed

/-- The script of replies, by kind, read kind by kind in name order. -/
def scriptOf (db : Json) : Except Json (List (Kind × List Outcome)) := do
  let written ← decodeWith (fun _ j => match j with
    | .object members => .ok members
    | other => mismatch other "a map") db
  written.mapM fun (name, replies) =>
    match Kind.ofName? name with
    | none => refuse ("unknown statement kind " ++ name)
    | some kind => do
      let replies ← decodeWith (listOf anyValue) replies
      pure (kind, ← replies.mapM (replyOf kind))

/-- The host a run sees here: a clock standing still and the mailboxes registered. -/
structure Desk where
  now : Instant
  mailboxes : List String

/-- Store work with a host at hand. -/
abbrev DeskM := ReaderT Desk SqlM

instance : Host DeskM where
  now := fun d => pure d.now
  deliver target _ := fun d =>
    pure (if d.mailboxes.contains target then .ok () else .error (.noMailbox target))

/-- Runs executor work at a desk. -/
def atDesk {α : Type} (d : Desk) (work : ExceptT ExecutorError DeskM α) :
    SqlM (Except ExecutorError α) :=
  work.run d

/-- The members of an answer, or its failure object. -/
abbrev Answer := Except Json (List (String × Json))

/-- Runs store work on the session; a crash is a `panic` answer. -/
def perform {α : Type} (s : Session) (work : SqlM α) (view : α → Answer) : Session × Answer :=
  match work.run s with
  | .ok a s => (s, view a)
  | .error crash s => (s, .error (failure "panic" crash))

/-- A store result as an answer. -/
def storeAnswer {α : Type} (view : α → List (String × Json)) : Except StoreError α → Answer
  | .ok a => .ok (view a)
  | .error e => .error (failure "store" e.message)

/-- A run result as an answer. -/
def runAnswer {α : Type} (view : α → List (String × Json)) : Except ExecutorError α → Answer
  | .ok a => .ok (view a)
  | .error e => .error (executorErrorView e)

/-- A run record as an answer member. -/
def runView (info : RunInfo) : List (String × Json) :=
  [("run", info.toJsonWith fun u => .string u.render)]

/-- The events of a run as an answer member. -/
def eventsView (events : List (Int × Event)) : List (String × Json) :=
  [("events", .array (events.map fun (n, e) => .array [Json.int n, e.toJson]))]

/-- The actions offered only against a database that cannot be reached. -/
def unreachableOnly : List String :=
  ["pool_size", "executor_run", "admin_reset", "admin_start_wait_shutdown"]

/-- The actions offered only against a scripted database. -/
def scriptedOnly : List String := ["executor_run_cancelled"]

/-- Runs one step of either request. Actions offered to one kind of database only are refused on
the other; `request` names the request in refusals. -/
def step (request : String) (clock : Instant) (s : Session) (j : Json) : Session × Answer :=
  let lift {α : Type} (r : Except Json α) (k : α → Session × Answer) : Session × Answer :=
    match r with
    | .ok a => k a
    | .error e => (s, .error e)
  let desk (mailboxes : List String) : Desk := ⟨clock, mailboxes⟩
  match needText j "action" with
  | .error e => (s, .error e)
  | .ok action =>
  if (if s.reachable then unreachableOnly else scriptedOnly).contains action then
    (s, refuse ("unknown " ++ request ++ " action " ++ action))
  else
  match action with
  | "ensure_schema" =>
    perform s ensureSchema (storeAnswer fun () => [("ok", .bool true)])
  | "start_run" =>
    lift (do
      let w ← needText j "workflow_id"
      let t ← needText j "workflow_type"
      let input ← need j "input"
      let at_ ← needAs j "started_at" Instant.decoder
      pure (w, t, input, at_)) fun (w, t, input, at_) =>
    perform s (startRun w t input at_) (storeAnswer runView)
  | "current_run" =>
    lift (needText j "workflow_id") fun w =>
    perform s (currentRun w) (storeAnswer fun
      | some info => runView info
      | none => [("run", .null)])
  | "append_events" =>
    lift (do
      let id ← needAs j "run_id" Uuid.decoder
      let expected ← needAs j "expected_sequence" i32
      let events ← needAs j "events" (listOf Event.decoder)
      pure (id, expected, events)) fun (id, expected, events) =>
    perform s (appendEvents id expected events) (storeAnswer fun n => [("sequence", Json.int n)])
  | "load_events" =>
    lift (needAs j "run_id" Uuid.decoder) fun id =>
    perform s (loadEvents id) (storeAnswer eventsView)
  | "continue_as_new" =>
    lift (do
      let id ← needAs j "run_id" Uuid.decoder
      let snapshot ← need j "snapshot"
      let at_ ← needAs j "started_at" Instant.decoder
      pure (id, snapshot, at_)) fun (id, snapshot, at_) =>
    perform s (continueAsNew id snapshot at_) (storeAnswer runView)
  | "close_run" =>
    lift (do
      let id ← needAs j "run_id" Uuid.decoder
      let status ← needAs j "status" Store.Status.decoder
      let reason ← needText j "reason"
      pure (id, status, reason)) fun (id, status, reason) =>
    perform s (closeRun id status reason) (storeAnswer fun () => [("ok", .bool true)])
  | "executor_run_cancelled" =>
    lift (needAs j "input" Seed.decoder) fun seed =>
    perform s (atDesk (desk [coordinatorId])
        (runCancelled coordinator Limits.default coordinatorId seed))
      (runAnswer fun () => [("ok", .bool true)])
  | "executor_run" =>
    lift (needAs j "input" Seed.decoder) fun seed =>
    perform s (atDesk (desk [coordinatorId]) (recoverOrStart coordinator coordinatorId seed))
      (runAnswer fun _ => [("ok", .bool true)])
  | "executor_terminate" =>
    lift (needText j "reason") fun reason =>
    perform s (atDesk (desk []) (terminate coordinatorId reason))
      (runAnswer fun r => [("terminated", Json.opt (fun u => .string u.render) r)])
  | "pool_size" => (s, .ok [("size", Json.nat 0)])
  | "admin_reset" =>
    lift (needAs j "config" Config.decoder) fun _ =>
    perform s (atDesk (desk []) (terminate coordinatorId "pool reset by operator"))
      fun
        | .ok _ => .ok [("ok", .bool true)]
        | .error e => .error (poolErrorView (.executor e))
  | "admin_start_wait_shutdown" =>
    lift (do
      let config ← needAs j "config" Config.decoder
      let _ ← needAs j "wait_ms" u64
      pure config) fun config =>
    perform s (atDesk (desk [coordinatorId])
        (runCancelled coordinator Limits.default coordinatorId ⟨config, none⟩))
      fun
        | .ok () => .ok [("ok", .bool true)]
        | .error e => .error (poolErrorView (.executor e))
  | a => (s, refuse ("unknown " ++ request ++ " action " ++ a))

/-- Whether `needle` occurs in `haystack`, scanning at most `fuel` starting points. -/
def occursAux (needle : List Char) : Nat → List Char → Bool
  | 0, _ => false
  | _, [] => needle.isEmpty
  | fuel + 1, c :: rest => needle.isPrefixOf (c :: rest) || occursAux needle fuel rest

/-- Whether an identifier text occurs in one of the texts of the request. -/
def mentioned (request : List String) (t : String) : Bool :=
  request.any fun r => occursAux t.toList (r.length + 1) r.toList

/-- The identifier texts of a step answer in reading order: its statements first, then its other
members by key. -/
def shownIn (sql body : Json) : List String :=
  (stringsOf sql ++ stringsOf body).flatMap (uuidTextsOf isAnyHex)

/-- Records texts not seen before, in order. -/
def noteTexts (seen : List String) (ts : List String) : List String :=
  ts.foldl (fun acc t => if acc.contains t then acc else acc ++ [t]) seen

/-- Runs the steps in order, each answer with its statements. An identifier text the request
does not mention is shown as `new#k`, numbered in order of first appearance. A string of an
answer whose window scan ends inside a character crashes the whole request, and so does a
32-character run id whose hyphenated grouping does. -/
def runSteps (request : String) (clock : Instant) (said : List String) :
    Session → List String → List Json → Except String (List Json)
  | _, _, [] => .ok []
  | s, seen, j :: rest => do
    if let some (.string t) := j.field? "run_id" then
      if let some crash := groupingCrash t then throw crash
    let before := s.log.length
    let (s, r) := step request clock s j
    let sql := Json.array ((s.log.drop before).map Statement.toJson)
    let body := match r with
      | .ok members => Json.record members
      | .error e => e
    match (stringsOf sql ++ stringsOf body).findSome? windowCrash with
    | some crash => .error crash
    | none =>
      let seen := noteTexts seen ((shownIn sql body).filter fun t => !mentioned said t)
      let rename (t : String) : String :=
        if mentioned said t then t
        else match seen.zipIdx.find? (·.1 == t) with
          | some (_, k) => "new#" ++ toString k
          | none => t
      let answer := rewriteIds rename (body.setField "sql" sql)
      pure (answer :: (← runSteps request clock said s seen rest))

/-- Answers a request against a scripted database. -/
def answerScripted (j : Json) : Json := finish do
  let items ← stepList j
  let clock ← needAs j "start" Instant.decoder
  let script ← match j.field? "db" with
    | some db => scriptOf db
    | none => pure []
  match runSteps "postgres_stub" clock (textsIn j) ⟨true, script, [], 0⟩ [] items with
  | .ok answers => pure (Json.record [("steps", .array answers)])
  | .error crash => .error (failure "panic" crash)

/-- Answers a request against a database that cannot be reached. -/
def answerUnreachable (j : Json) : Json := finish do
  let items ← stepList j
  let clock ← needAs j "start" Instant.decoder
  let answers := (items.foldl (fun (acc : Session × List Json) item =>
    let (s, r) := step "postgres" clock acc.1 item
    (s, acc.2 ++ [match r with
      | .ok members => Json.record members
      | .error e => e])) (⟨false, [], [], 0⟩, [])).2
  pure (Json.record [("steps", .array answers)])

end SlotKeeper.Script.SqlRun
