import SlotKeeper.Time.Rfc3339

/-!
# Signals and actions

A `Signal` is a named message with a JSON payload and the instant it was sent. Workflows answer
signals and timer ticks with `Action`s: send a signal to a mailbox, or nothing at all.
-/

namespace SlotKeeper.Workflow

open Json

/-- A named message addressed to a workflow. -/
structure Signal where
  kind : String
  payload : Json
  sentAt : Instant
  deriving Inhabited

namespace Signal

/-- Whether the signal has the given name. -/
def isKind (s : Signal) (kind : String) : Bool := s.kind == kind

/-- The stored form `{"signal_type", "payload", "sent_at"}`. -/
def toJson (s : Signal) : Json :=
  Json.record [("signal_type", .string s.kind), ("payload", s.payload),
    ("sent_at", s.sentAt.toJson)]

/-- The stored form without the sending instant. -/
def toJsonUnstamped (s : Signal) : Json :=
  Json.record [("signal_type", .string s.kind), ("payload", s.payload)]

/-- Reads the stored form; all three members are required. -/
def decoder : Decoder Signal := fun origin j => do
  let fs ← structFields "WorkflowSignal"
    [.req "signal_type" text, .req "payload" anyValue, .req "sent_at" Instant.decoder] origin j
  let kind ← fs.get "signal_type" text
  let payload ← fs.get "payload" anyValue
  let sentAt ← fs.get "sent_at" Instant.decoder
  pure ⟨kind, payload, sentAt⟩

end Signal

/-- What a workflow asks to be done after it handled an input. -/
inductive Action where
  /-- Send `signal` to the mailbox `target`. -/
  | send (target : String) (signal : Signal)
  /-- Nothing; delivery skips it. -/
  | idle
  deriving Inhabited

end SlotKeeper.Workflow
