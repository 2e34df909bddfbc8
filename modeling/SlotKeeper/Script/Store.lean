import SlotKeeper.Store.Memory
import SlotKeeper.Script.Rename

/-!
# Scripted in-memory store

Runs store operations against one fresh in-memory store. Run ids are shown as `run#k`, numbered in
the order in which answers first show them; a step names a run by that number, and a number not
yet given names the nil id. Every answer also tells how many runs the store keeps.
-/

namespace SlotKeeper.Script.StoreRun

open Json Store Workflow

/-- The store and the run ids shown so far. -/
structure Scene where
  store : Memory
  seen : List Uuid

/-- The run a step names by number. -/
def runOf (s : Scene) (j : Json) : Except Json Uuid := do
  let k ← needAs j "run" usize
  pure (s.seen.getD k Uuid.nil)

/-- A refused store operation as an answer. -/
def refused {α : Type} (e : StoreError) : Except Json α := .error (failure "store" e.message)

/-- An event list member. -/
def eventsOf (j : Json) : Except Json (List Event) := needAs j "events" (listOf Event.decoder)

/-- Runs one step; answers the members and the run ids it shows. -/
def step (s : Scene) (j : Json) : Scene × Except Json (List (String × Json) × List Uuid) :=
  let run (info : RunInfo) : List (String × Json) × List Uuid :=
    ([("run", info.toJsonWith fun u => .string u.render)], [info.run])
  let lift {α : Type} (r : Except Json α) (k : α → Scene × Except Json (List (String × Json) × List Uuid)) :=
    match r with
    | .ok a => k a
    | .error e => (s, .error e)
  match needText j "action" with
  | .error e => (s, .error e)
  | .ok "start_run" =>
    lift (do
      let w ← needText j "workflow_id"
      let t ← needText j "workflow_type"
      let input ← need j "input"
      let at_ ← needAs j "started_at" Instant.decoder
      pure (w, t, input, at_)) fun (w, t, input, at_) =>
    let (r, store) := s.store.startRun w t input at_
    ({ s with store := store }, (r.map run).mapError fun e => failure "store" e.message)
  | .ok "current_run" =>
    lift (needText j "workflow_id") fun w =>
    match s.store.currentRun w with
    | some info => (s, .ok (run info))
    | none => (s, .ok ([("run", .null)], []))
  | .ok "append_events" =>
    lift (do
      let events ← eventsOf j
      let id ← runOf s j
      let expected ← needAs j "expected_sequence" i32
      pure (id, expected, events)) fun (id, expected, events) =>
    let (r, store) := s.store.appendEvents id expected events
    ({ s with store := store }, match r with
      | .ok n => .ok ([("sequence", Json.int n)], [])
      | .error e => refused e)
  | .ok "load_events" =>
    lift (runOf s j) fun id =>
    match s.store.loadEvents id with
    | .ok events =>
      (s, .ok ([("events", .array (events.map fun (n, e) => .array [Json.int n, e.toJson]))], []))
    | .error e => (s, refused e)
  | .ok "continue_as_new" =>
    lift (do
      let id ← runOf s j
      let snapshot ← need j "snapshot"
      let at_ ← needAs j "started_at" Instant.decoder
      pure (id, snapshot, at_)) fun (id, snapshot, at_) =>
    let (r, store) := s.store.continueAsNew id snapshot at_
    ({ s with store := store }, (r.map run).mapError fun e => failure "store" e.message)
  | .ok "close_run" =>
    lift (do
      let id ← runOf s j
      let status ← needAs j "status" Status.decoder
      let reason ← needText j "reason"
      pure (id, status, reason)) fun (id, status, reason) =>
    let (r, store) := s.store.closeRun id status reason
    ({ s with store := store }, match r with
      | .ok () => .ok ([("closed", .bool true)], [])
      | .error e => refused e)
  | .ok "event_count" =>
    lift (runOf s j) fun id => (s, .ok ([("count", Json.nat (s.store.eventCount id))], []))
  | .ok "clear" => ({ s with store := s.store.clear }, .ok ([("cleared", .bool true)], []))
  | .ok a => (s, refuse ("unknown store action " ++ a))

/-- The names of the run ids shown so far. -/
def names (seen : List Uuid) : List (Uuid × String) :=
  seen.zipIdx.map fun (u, k) => (u, "run#" ++ toString k)

/-- Runs the steps in order. -/
def runSteps : Scene → List Json → List Json
  | _, [] => []
  | s, j :: rest =>
    let (s, r) := step s j
    let (s, answer) : Scene × Json := match r with
      | .ok (members, ids) =>
        let s := { s with seen := noteIds s.seen ids }
        (s, Json.record (members ++ [("run_count", Json.nat s.store.runCount)]))
      | .error e => (s, e.setField "run_count" (Json.nat s.store.runCount))
    renameIds (names s.seen) answer :: runSteps s rest

/-- Answers a scripted store request. -/
def answer (j : Json) : Json := finish do
  let items ← steps j
  pure (Json.record [("steps", .array (runSteps ⟨Memory.empty, []⟩ items))])

end SlotKeeper.Script.StoreRun
