import SlotKeeper.Pool.Coordinator
import SlotKeeper.Backoff.Policy
import SlotKeeper.Store.Error
import SlotKeeper.Workflow.Event
import SlotKeeper.Script.Views

/-!
# Scripted records

Small requests on single records: slot responses, run statuses, workflow events, workflow faults,
spans of milliseconds and retry policies.
-/

namespace SlotKeeper.Script.Records

open Json Pool Workflow Backoff

/-- The members describing a response. -/
def responseMembers (r : Response) : List (String × Json) :=
  let signal : Signal := ⟨"SlotResponse", r.toJson, Instant.sqlEpoch⟩
  let back := decode Response.decoder signal.payload
  [("response", r.toJson), ("signal_type", .string signal.kind),
    ("round_trips", .bool (match back with
      | .ok r' => r' == r
      | .error _ => false)),
    ("workflow_error", Json.opt faultView r.fault)]

/-- Answers a slot response request. -/
def response (j : Json) : Json := finish do
  let r ← match ← needText j "kind" with
    | "granted" => do
      pure (Response.grant (← needAs j "request" Request.decoder))
    | "rejected" => do
      let code ← needText j "code"
      let message ← needText j "message"
      pure (Response.reject (← needAs j "request" Request.decoder) code message)
    | "timed_out" => do
      pure (Response.timedOut (← needAs j "request" Request.decoder))
    | "decode" => needAs j "response" Response.decoder
    | k => refuse ("unknown response kind " ++ k)
  pure (Json.record (responseMembers r))

/-- Answers a run status request. -/
def status (j : Json) : Json := finish do
  let text ← needText j "text"
  match Store.Status.parse text with
  | .ok s => pure (Json.record [("status", .string s.name), ("display", .string s.name),
      ("is_running", .bool s.isRunning)])
  | .error e => .error (failure "store" e.message)

/-- Answers a workflow event request. -/
def event (j : Json) : Json := finish do
  let e ← needAs j "event" Event.decoder
  pure (Json.record [("type_name", .string e.typeName), ("is_terminal", .bool e.isTerminal),
    ("is_input", .bool e.isInput), ("encoded", e.toJson)])

/-- Answers a workflow fault request. -/
def fault (j : Json) : Json := finish do
  let f ← needAs j "workflow_error" Fault.decoder
  pure (Json.record [("workflow_error", faultView f)])

/-- Answers a span-of-milliseconds request: the value is read as a lease timeout. -/
def millis (j : Json) : Json := finish do
  let d ← needAs j "value" Span.millisDecoder
  pure (Json.record [("duration", d.toJson), ("encoded", d.toMillisJson)])

end SlotKeeper.Script.Records
