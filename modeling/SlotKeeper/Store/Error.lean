import SlotKeeper.Ident.Uuid

/-!
# Run status and store failures

A run is `running` until it is closed: continued as new, cancelled, terminated or failed. Each
status is written in snake case, and only those exact names are read back.

`StoreError` lists why an event store refused an operation, each with its fixed text.
-/

namespace SlotKeeper.Store

open Json

/-- The status of a run. -/
inductive Status where
  | running
  | continuedAsNew
  | cancelled
  | terminated
  | failed
  deriving DecidableEq, Repr, Inhabited

namespace Status

/-- The snake-case name of a status. -/
def name : Status → String
  | .running => "running"
  | .continuedAsNew => "continued_as_new"
  | .cancelled => "cancelled"
  | .terminated => "terminated"
  | .failed => "failed"

/-- Whether the run is still open. -/
def isRunning : Status → Bool
  | .running => true
  | _ => false

/-- Every status, in declaration order. -/
def all : List Status := [.running, .continuedAsNew, .cancelled, .terminated, .failed]

/-- The status with exactly this name. -/
def ofName? (s : String) : Option Status := all.find? (·.name == s)

/-- Reads a status name as a JSON string. -/
def decoder : Decoder Status := fun origin j => do
  let s ← variantName (all.map name) origin j
  match ofName? s with
  | some st => pure st
  | none => .error (.unknownVariant s (all.map name))

theorem ofName?_name (s : Status) : ofName? s.name = some s := by
  cases s <;> rfl

end Status

/-- Why an event store refused an operation. -/
inductive StoreError where
  | workflowNotFound (workflow : String)
  | runNotFound (run : Uuid)
  | runAlreadyActive (workflow : String) (run : Uuid)
  | runClosed (run : Uuid) (status : Status)
  | conflict (expected actual : Int)
  | database (message : String)
  | serialization (message : String)
  deriving DecidableEq, Repr

/-- The text of a store failure. -/
def StoreError.message : StoreError → String
  | .workflowNotFound w => "workflow not found: " ++ w
  | .runNotFound r => "run not found: " ++ r.render
  | .runAlreadyActive w r => "workflow " ++ w ++ " already has a running run " ++ r.render
  | .runClosed r s => "run " ++ r.render ++ " is closed (" ++ s.name ++ ")"
  | .conflict e a =>
    "concurrency conflict: expected sequence " ++ toString e ++ ", got " ++ toString a
  | .database m => "database error: " ++ m
  | .serialization m => "serialization error: " ++ m

/-- Reads a status name as stored text, failing as a store would. -/
def Status.parse (s : String) : Except StoreError Status :=
  match Status.ofName? s with
  | some st => .ok st
  | none => .error (.serialization ("unknown workflow status: " ++ s))

end SlotKeeper.Store
