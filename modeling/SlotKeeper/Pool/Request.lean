import SlotKeeper.Workflow.Fault
import SlotKeeper.Time.Rfc3339

/-!
# Requests, leases and responses

A `Request` asks for one slot on behalf of a requester and may wait in the queue until its
timeout has elapsed since it was sent. A granted request becomes a `Lease`, kept alive by
heartbeats. Every request is answered by a `Response`: a grant, or a rejection with a code and a
message. A rejection read as a workflow fault is never retryable.
-/

namespace SlotKeeper.Pool

open Json Workflow

/-- The code of a request that waited past its timeout. -/
def timeoutCode : String := "PoolTimeout"

/-- The code of a request turned away by a full queue. -/
def exhaustedCode : String := "PoolExhausted"

/-- The name of the coordinator's mailbox. -/
def coordinatorId : String := "emulator-pool-coordinator"

/-- The signal asking for a slot. -/
def acquireSignal : String := "AcquireSlot"

/-- The signal giving a slot back. -/
def releaseSignal : String := "ReleaseSlot"

/-- The signal telling the coordinator a holder is alive. -/
def heartbeatSignal : String := "Heartbeat"

/-- The signal changing the number of slots. -/
def capacitySignal : String := "UpdateCapacity"

/-- The signal answering a request. -/
def responseSignal : String := "SlotResponse"

/-- A request for one slot. -/
structure Request where
  requester : String
  run : String
  id : String
  sentAt : Instant
  timeout : Span
  priority : Int
  deriving DecidableEq, Repr, Inhabited

namespace Request

/-- The stored form; the timeout is whole milliseconds. -/
def toJson (r : Request) : Json :=
  Json.record [("requester_id", .string r.requester), ("run_id", .string r.run),
    ("request_id", .string r.id), ("request_time", r.sentAt.toJson),
    ("timeout", r.timeout.toMillisJson), ("priority", Json.int r.priority)]

/-- Reads the stored form; the priority defaults to zero. -/
def decoder : Decoder Request := fun origin j => do
  let fs ← structFields "PoolRequest"
    [.req "requester_id" text, .req "run_id" text, .req "request_id" text,
      .req "request_time" Instant.decoder, .req "timeout" Span.millisDecoder,
      .dflt "priority" i32] origin j
  pure ⟨← fs.get "requester_id" text, ← fs.get "run_id" text, ← fs.get "request_id" text,
    ← fs.get "request_time" Instant.decoder, ← fs.get "timeout" Span.millisDecoder,
    ← fs.getD "priority" i32 0⟩

/-- Whether the request has waited its whole timeout by `now`. -/
def timedOut (r : Request) (now : Instant) : Bool :=
  decide (r.timeout ≤ now.elapsedSince r.sentAt)

end Request

/-- A slot held by a requester. -/
structure Lease where
  requester : String
  run : String
  request : String
  acquiredAt : Instant
  lastHeartbeat : Instant
  info : Option String
  deriving DecidableEq, Repr, Inhabited

namespace Lease

/-- The lease a request receives at `now`. -/
def grant (r : Request) (now : Instant) : Lease :=
  ⟨r.requester, r.run, r.id, now, now, none⟩

/-- The same lease, heard from at `now`. -/
def touch (l : Lease) (now : Instant) : Lease := { l with lastHeartbeat := now }

/-- The stored form; `emulator_info` is left out when absent. -/
def toJson (l : Lease) : Json :=
  Json.record ([("requester_id", .string l.requester), ("run_id", .string l.run),
    ("request_id", .string l.request), ("acquired_at", l.acquiredAt.toJson),
    ("last_heartbeat", l.lastHeartbeat.toJson)] ++
    (match l.info with
     | some i => [("emulator_info", .string i)]
     | none => []))

/-- Reads the stored form; `emulator_info` may be absent or `null`. -/
def decoder : Decoder Lease := fun origin j => do
  let fs ← structFields "PoolLease"
    [.req "requester_id" text, .req "run_id" text, .req "request_id" text,
      .req "acquired_at" Instant.decoder, .req "last_heartbeat" Instant.decoder,
      .dflt "emulator_info" (optional text)] origin j
  pure ⟨← fs.get "requester_id" text, ← fs.get "run_id" text, ← fs.get "request_id" text,
    ← fs.get "acquired_at" Instant.decoder, ← fs.get "last_heartbeat" Instant.decoder,
    ← fs.getD "emulator_info" (optional text) none⟩

end Lease

/-- The answer to a request. -/
structure Response where
  requester : String
  run : String
  request : String
  granted : Bool
  code : Option String
  message : Option String
  deriving DecidableEq, Repr, Inhabited

namespace Response

/-- A grant of `r`. -/
def grant (r : Request) : Response := ⟨r.requester, r.run, r.id, true, none, none⟩

/-- A rejection of `r` with a code and a message. -/
def reject (r : Request) (code message : String) : Response :=
  ⟨r.requester, r.run, r.id, false, some code, some message⟩

/-- The rejection of a request that waited its whole timeout. -/
def timedOut (r : Request) : Response :=
  reject r timeoutCode ("request " ++ r.id ++ " timed out after " ++ r.timeout.debugText ++
    " in queue")

/-- The rejection as a fault, never retryable; none for a grant. -/
def fault (r : Response) : Option Fault :=
  if r.granted then none
  else
    let f := Fault.final (r.message.getD "slot request rejected")
    some (match r.code with
      | some c => f.withCode c
      | none => f)

/-- The stored form; absent codes and messages are left out. -/
def toJson (r : Response) : Json :=
  Json.record ([("requester_id", .string r.requester), ("run_id", .string r.run),
    ("request_id", .string r.request), ("granted", .bool r.granted)] ++
    (match r.code with
     | some c => [("error_code", .string c)]
     | none => []) ++
    (match r.message with
     | some m => [("error_message", .string m)]
     | none => []))

/-- Reads the stored form; the code and the message may be absent or `null`. -/
def decoder : Decoder Response := fun origin j => do
  let fs ← structFields "PoolSlotResponse"
    [.req "requester_id" text, .req "run_id" text, .req "request_id" text,
      .req "granted" boolean, .dflt "error_code" (optional text),
      .dflt "error_message" (optional text)] origin j
  pure ⟨← fs.get "requester_id" text, ← fs.get "run_id" text, ← fs.get "request_id" text,
    ← fs.get "granted" boolean, ← fs.getD "error_code" (optional text) none,
    ← fs.getD "error_message" (optional text) none⟩

end Response

/-- The requester named by a release or a heartbeat. -/
structure Holder where
  requester : String
  run : String
  deriving DecidableEq, Repr

/-- The payload of a release or a heartbeat. -/
def Holder.toJson (h : Holder) : Json :=
  Json.record [("requester_id", .string h.requester), ("run_id", .string h.run)]

/-- Reads a release or heartbeat payload. -/
def Holder.decoder (structName : String) : Decoder Holder := fun origin j => do
  let fs ← structFields structName [.req "requester_id" text, .req "run_id" text] origin j
  pure ⟨← fs.get "requester_id" text, ← fs.get "run_id" text⟩

/-- The payload of a capacity update. -/
def capacityPayload (n : Int) : Json := Json.record [("max_concurrent_emulators", Json.int n)]

/-- Reads a capacity update: the new number of slots, possibly not positive. -/
def capacityDecoder : Decoder Int := fun origin j => do
  let fs ← structFields "PoolCapacityUpdate" [.req "max_concurrent_emulators" i64] origin j
  fs.get "max_concurrent_emulators" i64

/-- A point-in-time view of the pool. -/
structure Status where
  available : Nat
  queued : Nat
  active : Nat
  capacity : Nat
  deriving DecidableEq, Repr

/-- The stored form of a status. -/
def Status.toJson (s : Status) : Json :=
  Json.record [("available", Json.nat s.available), ("queued", Json.nat s.queued),
    ("active", Json.nat s.active), ("max_capacity", Json.nat s.capacity)]

/-- Reads a status, as an operator's status call does; all four counts are required. -/
def Status.decoder : Decoder Status := fun origin j => do
  let fs ← structFields "PoolStatus"
    [.req "available" usize, .req "queued" usize, .req "active" usize,
      .req "max_capacity" usize] origin j
  pure ⟨← fs.get "available" usize, ← fs.get "queued" usize, ← fs.get "active" usize,
    ← fs.get "max_capacity" usize⟩

end SlotKeeper.Pool
