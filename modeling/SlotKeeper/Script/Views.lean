import SlotKeeper.Script.Reply
import SlotKeeper.Workflow.Fault
import SlotKeeper.Workflow.Signal
import SlotKeeper.Pool.Failure

/-!
# Views shared by the scripted operations

How faults and actions are shown in answers: a fault carries its text under `display` beside its
fields, and a send action is flattened to its target, signal name and payload (the sending
instant is left out). Run failures show their kind, text and whether a rerun may recover; pool
failures show their kind, text, code and whether a retry may help.
-/

namespace SlotKeeper.Script

open Json Workflow Engine Pool

/-- A fault with its text. -/
def faultView (f : Fault) : Json :=
  Json.record [("message", .string f.message), ("code", Json.opt .string f.code),
    ("retryable", .bool f.retryable), ("display", .string f.render)]

/-- An action without its signal's sending instant. -/
def actionView : Action → Json
  | .send target s =>
    Json.record [("type", .string "send_signal"), ("target", .string target),
      ("signal_type", .string s.kind), ("payload", s.payload)]
  | .idle => Json.record [("type", .string "none")]

/-- A run failure. -/
def executorErrorView (e : ExecutorError) : Json :=
  match e with
  | .crashed _ => Json.record [("error", .string "join"), ("message", .string "panic")]
  | _ =>
    Json.record [("error", .string e.kind), ("message", .string e.message),
      ("recoverable", .bool e.isRecoverable)]

/-- A pool failure. -/
def poolErrorView (e : PoolError) : Json :=
  Json.record [("error", .string e.kind), ("message", .string e.message),
    ("code", Json.opt .string e.code), ("retryable", .bool e.isRetryable)]

end SlotKeeper.Script
