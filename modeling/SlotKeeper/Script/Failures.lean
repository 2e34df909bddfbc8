import SlotKeeper.Pool.Failure
import SlotKeeper.Pool.Coordinator
import SlotKeeper.Script.Views

/-!
# Scripted failures

Builds a pool failure from a description and answers its text, code, retryability, its reading
as a workflow fault and, for coordinator failures, whether they are recoverable.
-/

namespace SlotKeeper.Script.Failures

open Json Pool Engine Store

/-- A text member that may be absent or `null`. -/
def optText (j : Json) (key : String) : Except Json (Option String) := mayHave j key text

/-- A delivery failure from `{"kind", "id"}`. -/
def deliveryOf (j : Json) : Except Json DeliveryError := do
  let d ← need j "delivery"
  let kind ← needText d "kind"
  let id ← needText d "id"
  match kind with
  | "no_mailbox" => pure (.noMailbox id)
  | "closed" => pure (.closed id)
  | _ => refuse "unknown delivery kind"

/-- A store failure from `{"kind", ...}`. -/
def storeOf (j : Json) : Except Json StoreError := do
  let s ← need j "store"
  match ← needText s "kind" with
  | "workflow_not_found" => pure (.workflowNotFound (← needText s "id"))
  | "run_not_found" => pure (.runNotFound (← needAs s "run_id" Uuid.decoder))
  | "run_already_active" => do
    let w ← needText s "workflow_id"
    pure (.runAlreadyActive w (← needAs s "run_id" Uuid.decoder))
  | "run_closed" => do
    let r ← needAs s "run_id" Uuid.decoder
    pure (.runClosed r (← needAs s "status" Store.Status.decoder))
  | "concurrency_conflict" => do
    let e ← needAs s "expected" i32
    pure (.conflict e (← needAs s "actual" i32))
  | "database" => pure (.database (← needText s "message"))
  | "serialization" => pure (.serialization (← needText s "message"))
  | _ => refuse "unknown store error kind"

/-- One step of `maskTaskIds` over the reversed text written so far, and whether the digits of
a task number are being dropped. -/
def maskStep (st : List Char × Bool) (c : Char) : List Char × Bool :=
  if c.isDigit then
    if st.2 then st
    else if st.1.take 5 == " ksat".toList then ('N' :: st.1, true)
    else (c :: st.1, false)
  else (c :: st.1, false)

/-- A task's text with every task number, the digits right after "task ", written as `N`, as
task numbers differ from run to run. -/
def maskTaskIds (s : String) : String :=
  String.ofList (s.toList.foldl maskStep ([], false)).1.reverse

example : maskTaskIds "task 0012 x" = "task N x" := by decide

/-- Builds the failure a description names. -/
def failureOf (j : Json) : Except Json PoolError := do
  match ← needText j "variant" with
  | "rejected" => pure (PoolError.ofRejection (← optText j "code") (← optText j "message"))
  | "timeout" => pure (.timeout (← needText j "message"))
  | "exhausted" => pure (.exhausted (← needText j "message"))
  | "rejected_raw" => do
    let c ← needText j "code"
    pure (.rejected c (← needText j "message"))
  | "delivery" => pure (.delivery (← deliveryOf j))
  | "query_delivery" => pure (.query (.delivery (← deliveryOf j)))
  | "query_dropped" => pure (.query (.dropped (← needText j "id")))
  | "query_rejected" =>
    pure (.query (.rejected (← needAs j "workflow_error" Workflow.Fault.decoder)))
  | "mailbox_closed" => pure (.mailboxClosed (← needText j "id"))
  | "decode" =>
    match decode Response.decoder (← need j "value") with
    | .ok _ => refuse "value decodes"
    | .error e => pure (.decode e.message)
  | "executor_store" => pure (.executor (.store (← storeOf j)))
  | "executor_delivery" => pure (.executor (.delivery (← deliveryOf j)))
  | "executor_replay" => pure (.executor (.replay (← needText j "message")))
  | "executor_mailbox_closed" => pure (.executor (.mailboxClosed (← needText j "id")))
  | "executor_type_mismatch" => do
    let w ← needText j "workflow_id"
    pure (.executor (.typeMismatch w coordinatorType (← needText j "actual")))
  | "join" => pure (.join (← needText j "message"))
  | "join_cancelled" => do
    let _ ← optText j "panic_message"
    pure (.join "task N was cancelled")
  | "join_panic" => do
    let m ← needText j "panic_message"
    pure (.join (maskTaskIds ("task N panicked with message " ++ debugQuote m)))
  | v => refuse ("unknown pool error variant " ++ v)

/-- Answers a scripted failure request. -/
def answer (j : Json) : Json := finish do
  let e ← failureOf j
  let recoverable := match e with
    | .executor x => Json.bool x.isRecoverable
    | _ => .null
  pure (Json.record [("display", .string e.message), ("code", Json.opt .string e.code),
    ("retryable", .bool e.isRetryable), ("workflow_error", faultView e.toFault),
    ("executor_recoverable", recoverable)])

end SlotKeeper.Script.Failures
