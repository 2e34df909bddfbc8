import SlotKeeper.Script.PoolState
import SlotKeeper.Script.Coordinator
import SlotKeeper.Script.Config
import SlotKeeper.Script.Records
import SlotKeeper.Script.Retry
import SlotKeeper.Script.Failures
import SlotKeeper.Script.Clock
import SlotKeeper.Script.Store
import SlotKeeper.Script.Sql
import SlotKeeper.Script.Executor
import SlotKeeper.Json.Read

/-!
# Dispatching scripted requests

A scripted request is an object naming its operation under `"op"`; `answer` runs it and returns
the answer object. `answerLine` reads one line of text first and reports text that is not JSON
as a `bad_json` failure.
-/

namespace SlotKeeper.Script

open Json

/-- Answers one scripted request; `wall` is the current wall-clock instant. -/
def answer (wall : Instant) (input : Json) : Json :=
  match input.field? "op" with
  | some (.string "pool_state") => PoolState.answer input
  | some (.string "coordinator") => CoordinatorRun.answer input
  | some (.string "config") => ConfigRun.answer input
  | some (.string "response") => Records.response input
  | some (.string "workflow_status") => Records.status input
  | some (.string "workflow_event") => Records.event input
  | some (.string "workflow_error") => Records.fault input
  | some (.string "duration_millis") => Records.millis input
  | some (.string "retry") => RetryRun.answer input
  | some (.string "pool_error") => Failures.answer input
  | some (.string "clock") => ClockRun.answer wall input
  | some (.string "store") => StoreRun.answer input
  | some (.string "postgres_stub") => SqlRun.answerScripted input
  | some (.string "postgres") => SqlRun.answerUnreachable input
  | some (.string "executor") => ExecutorRun.answer input
  | some (.string op) => failure "driver" ("unknown op " ++ op)
  | _ => failure "driver" "missing op"

/-- Answers one line of text holding a scripted request. -/
def answerLine (wall : Instant) (line : String) : Json :=
  match Json.parse line with
  | .ok input => answer wall input
  | .error message => failure "bad_json" message

end SlotKeeper.Script
