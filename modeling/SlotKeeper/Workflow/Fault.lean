import SlotKeeper.Json.Decode

/-!
# Workflow faults

A `Fault` is the error a workflow reports to its callers: a message, an optional machine code
and whether trying again may help. Its text is `code: message` when there is a code and the
bare message otherwise.
-/

namespace SlotKeeper.Workflow

open Json

/-- An error reported by a workflow. -/
structure Fault where
  message : String
  code : Option String
  retryable : Bool
  deriving DecidableEq, Repr, Inhabited

namespace Fault

/-- A fault that trying again will not mend. -/
def final (message : String) : Fault := ⟨message, none, false⟩

/-- A fault that trying again may mend. -/
def transient (message : String) : Fault := ⟨message, none, true⟩

/-- The same fault with a code. -/
def withCode (f : Fault) (code : String) : Fault := { f with code := some code }

/-- The text of a fault: `code: message`, or the message alone. -/
def render (f : Fault) : String :=
  match f.code with
  | some code => code ++ ": " ++ f.message
  | none => f.message

example : render ((final "queue full").withCode "PoolExhausted") =
    "PoolExhausted: queue full" := by decide

/-- The stored form `{"message", "code", "retryable"}`; a missing code is `null`. -/
def toJson (f : Fault) : Json :=
  Json.record [("message", .string f.message), ("code", Json.opt .string f.code),
    ("retryable", .bool f.retryable)]

/-- Reads the stored form; the code may be absent or `null`. -/
def decoder : Decoder Fault := fun origin j => do
  let fs ← structFields "WorkflowError"
    [.req "message" text, .opt "code" (optional text), .req "retryable" boolean] origin j
  let message ← fs.get "message" text
  let code ← fs.getD "code" (optional text) none
  let retryable ← fs.get "retryable" boolean
  pure ⟨message, code, retryable⟩

end Fault

end SlotKeeper.Workflow
