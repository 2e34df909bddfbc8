import SlotKeeper.Store.Error
import SlotKeeper.Workflow.Event

/-!
# Runs and the event store interface

A workflow id names a long-lived workflow; each of its runs has its own id, type, status, input
and start instant (`RunInfo`), and an append-only history of events numbered from zero.

`EventStore m` is what the engine needs from a store, with effects in the monad `m`: start a run
(refused while the workflow's latest run is running), find the latest run of a workflow, append
events at an expected position, load a run's history, continue a run as a new one carrying a
snapshot, and close a run with a final status.
-/

namespace SlotKeeper

/-- The `k`-th minted run id: the version-7 layout with every timestamp and random bit set, and
the counter added in the last 48 bits. Ids grow with every mint, as the version-7 ids of one
process do, so no id is minted twice. -/
def Uuid.minted (k : Nat) : Uuid :=
  ⟨0xffffffffffff7fffbfff * Nat.pow 2 48 + k⟩

namespace Store

open Json Workflow

/-- What is known about one run. -/
structure RunInfo where
  workflow : String
  run : Uuid
  workflowType : String
  status : Status
  input : Json
  startedAt : Instant
  deriving Inhabited

/-- The fields of a run, with the run id written by `showId`. -/
def RunInfo.toJsonWith (showId : Uuid → Json) (r : RunInfo) : Json :=
  Json.record [("workflow_id", .string r.workflow), ("run_id", showId r.run),
    ("workflow_type", .string r.workflowType), ("status", .string r.status.name),
    ("input", r.input), ("started_at", r.startedAt.toJson)]

/-- The event that closing a run with `status` appends: cancellations and terminations are
recorded, the other statuses are not. -/
def closingEvent (status : Status) (reason : String) : Option Event :=
  match status with
  | .cancelled => some (.cancelled reason)
  | .terminated | .failed => some (.terminated reason)
  | .running | .continuedAsNew => none

/-- The operations of an event store, with effects in `m`. -/
class EventStore (m : Type → Type) where
  startRun : String → String → Json → Instant → m (Except StoreError RunInfo)
  currentRun : String → m (Except StoreError (Option RunInfo))
  appendEvents : Uuid → Int → List Event → m (Except StoreError Int)
  loadEvents : Uuid → m (Except StoreError (List (Int × Event)))
  continueAsNew : Uuid → Json → Instant → m (Except StoreError RunInfo)
  closeRun : Uuid → Status → String → m (Except StoreError Unit)

/-- A store is still a store under a read-only context. -/
instance {ρ : Type} {m : Type → Type} [EventStore m] : EventStore (ReaderT ρ m) where
  startRun w t input at_ := fun _ => EventStore.startRun w t input at_
  currentRun w := fun _ => EventStore.currentRun w
  appendEvents r expected events := fun _ => EventStore.appendEvents r expected events
  loadEvents r := fun _ => EventStore.loadEvents r
  continueAsNew r snapshot at_ := fun _ => EventStore.continueAsNew r snapshot at_
  closeRun r status reason := fun _ => EventStore.closeRun r status reason

end Store

end SlotKeeper
