import SlotKeeper.Workflow.Signal

/-!
# Workflow events

A run's history is a list of `Event`s. The first records the start and its input; lifecycle
events close a run (`isTerminal`); input events record a signal or a timer tick (`isInput`);
and `delivered` records how many actions an input produced were handed on.

The stored form is an object tagged by `"type"`, with the variant's fields beside the tag. Reading
it takes the tag first (a missing tag, an unknown name or a tag that is not a string fails), then
the remaining members as the variant's fields. An array is read as the tag followed by the fields
in order.
-/

namespace SlotKeeper.Workflow

open Json

/-- One entry of a run's history. -/
inductive Event where
  | started (input : Json) (startedAt : Instant)
  | continued (input : Json)
  | cancelled (reason : String)
  | terminated (reason : String)
  | signalled (signal : Signal) (receivedAt : Instant)
  | ticked (timer : String) (firedAt : Instant)
  | delivered (count : Nat)
  deriving Inhabited

namespace Event

/-- The tag of each variant, in declaration order. -/
def tags : List String :=
  ["workflow_started", "continued_as_new", "workflow_cancelled", "workflow_terminated",
    "signal_received", "timer_fired", "actions_delivered"]

/-- The tag of an event. -/
def typeName : Event → String
  | .started .. => "workflow_started"
  | .continued .. => "continued_as_new"
  | .cancelled .. => "workflow_cancelled"
  | .terminated .. => "workflow_terminated"
  | .signalled .. => "signal_received"
  | .ticked .. => "timer_fired"
  | .delivered .. => "actions_delivered"

/-- Whether the event closes a run. -/
def isTerminal : Event → Bool
  | .continued .. | .cancelled .. | .terminated .. => true
  | _ => false

/-- Whether the event is an input the workflow reacts to. -/
def isInput : Event → Bool
  | .signalled .. | .ticked .. => true
  | _ => false

/-- The fields of an event beside its tag. -/
def fields (stampSignals : Bool) : Event → List (String × Json)
  | .started input t => [("input", input), ("started_at", t.toJson)]
  | .continued input => [("input", input)]
  | .cancelled reason => [("reason", .string reason)]
  | .terminated reason => [("reason", .string reason)]
  | .signalled s t =>
    [("signal", if stampSignals then s.toJson else s.toJsonUnstamped), ("received_at", t.toJson)]
  | .ticked timer t => [("timer_id", .string timer), ("fired_at", t.toJson)]
  | .delivered n => [("count", Json.nat n)]

/-- The stored form. -/
def toJson (e : Event) : Json := Json.record (("type", .string e.typeName) :: e.fields true)

/-- The stored form with signals shown without their sending instant. -/
def toJsonUnstamped (e : Event) : Json :=
  Json.record (("type", .string e.typeName) :: e.fields false)

/-- Reads the tag: a known variant name. -/
def tag (j : Json) : Except DecodeError String :=
  match j with
  | .string s => if tags.contains s then .ok s else .error (.unknownVariant s tags)
  | other => mismatch other "variant identifier"

/-- Reads the fields of the variant `name` from its buffered content. -/
def body (name : String) (content : Json) : Except DecodeError Event :=
  let what := "struct variant WorkflowEvent::"
  let o := Origin.buffered
  match name with
  | "workflow_started" => do
    let fs ← recordFields (what ++ "WorkflowStarted")
      [.req "input" anyValue, .req "started_at" Instant.decoder] o content
    pure (.started (← fs.get "input" anyValue) (← fs.get "started_at" Instant.decoder))
  | "continued_as_new" => do
    let fs ← recordFields (what ++ "ContinuedAsNew") [.req "input" anyValue] o content
    pure (.continued (← fs.get "input" anyValue))
  | "workflow_cancelled" => do
    let fs ← recordFields (what ++ "WorkflowCancelled") [.req "reason" text] o content
    pure (.cancelled (← fs.get "reason" text))
  | "workflow_terminated" => do
    let fs ← recordFields (what ++ "WorkflowTerminated") [.req "reason" text] o content
    pure (.terminated (← fs.get "reason" text))
  | "signal_received" => do
    let fs ← recordFields (what ++ "SignalReceived")
      [.req "signal" Signal.decoder, .req "received_at" Instant.decoder] o content
    pure (.signalled (← fs.get "signal" Signal.decoder) (← fs.get "received_at" Instant.decoder))
  | "timer_fired" => do
    let fs ← recordFields (what ++ "TimerFired")
      [.req "timer_id" text, .req "fired_at" Instant.decoder] o content
    pure (.ticked (← fs.get "timer_id" text) (← fs.get "fired_at" Instant.decoder))
  | _ => do
    let fs ← recordFields (what ++ "ActionsDelivered") [.req "count" usize] o content
    pure (.delivered (← fs.get "count" usize))

/-- The expected-text of the tagged form. -/
def described : String := "internally tagged enum WorkflowEvent"

/-- Reads the stored form. -/
def decoder : Decoder Event := fun _ j =>
  match j with
  | .object members =>
    match members.find? (·.1 == "type") with
    | none => .error (.missingField "type")
    | some (_, t) => do
      let name ← tag t
      body name (.object (members.filter (·.1 != "type")))
  | .array [] => .error (.missingField "type")
  | .array (t :: rest) => do
    let name ← tag t
    body name (.array rest)
  | other => mismatch other described

theorem typeName_mem_tags (e : Event) : e.typeName ∈ tags := by
  cases e <;> simp [typeName, tags]

end Event

end SlotKeeper.Workflow
