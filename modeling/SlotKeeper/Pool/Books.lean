import SlotKeeper.Pool.Config
import SlotKeeper.Pool.Leases

/-!
# The pool's books

`Books` is what the coordinator knows about the pool: how many slots are free, which requests
wait (served strictly in arrival order) and which leases are held. Every transition takes the
current instant and returns the responses to send; nothing else is read or written, so replaying
the same inputs gives the same books.

After each transition the free slots and the held leases add up to the capacity, except after
the capacity was lowered below the number of held leases: leases are never evicted, so the free
count stays at zero until enough holders release.

* `acquire` refreshes a held lease, grants a free slot, turns the request away when the queue is
  full, or queues it.
* `assignSlots` pops the queue head while a slot is free: a timed-out head is rejected without
  taking a slot, a head whose requester holds a lease is granted without taking one, and any other
  head takes a slot.
* `expire` reclaims the leases silent for longer than the lease timeout, rejects every timed-out
  waiting request in queue order, then assigns slots.
-/

namespace SlotKeeper.Pool

open Json

/-- What an acquire did. -/
inductive Admission where
  /-- A free slot was leased. -/
  | granted (response : Response)
  /-- The requester already held a lease, which was refreshed. -/
  | alreadyLeased (response : Response)
  /-- No slot was free; the request waits at this position (0 is the head). -/
  | queued (position : Nat)
  /-- The queue was full. -/
  | exhausted (response : Response)
  deriving DecidableEq, Repr

/-- The response to send at once, if any. -/
def Admission.response? : Admission → Option Response
  | .granted r | .alreadyLeased r | .exhausted r => some r
  | .queued _ => none

/-- Free slots, waiting requests and held leases. -/
structure Books where
  available : Nat
  queue : List Request
  leases : Leases
  deriving DecidableEq, Repr, Inhabited

namespace Books

/-- An empty pool with every slot free. -/
def fresh (c : Config) : Books := ⟨c.capacity, [], Leases.empty⟩

/-- Recomputes the free slots from the capacity and the held leases, never below zero. -/
def reconcile (b : Books) (c : Config) : Books := { b with available := c.capacity - b.leases.size }

/-- Grants slots to waiting requests, head first, while a slot is free. -/
def assignFrom (now : Instant) : Nat → List Request → Leases → Books × List Response
  | 0, queue, leases => (⟨0, queue, leases⟩, [])
  | free + 1, [], leases => (⟨free + 1, [], leases⟩, [])
  | free + 1, r :: queue, leases =>
    if r.timedOut now then
      let (b, out) := assignFrom now (free + 1) queue leases
      (b, Response.timedOut r :: out)
    else if leases.contains r.requester then
      let (b, out) := assignFrom now (free + 1) queue (leases.modify r.requester (·.touch now))
      (b, Response.grant r :: out)
    else
      let (b, out) := assignFrom now free queue (leases.insert r.requester (Lease.grant r now))
      (b, Response.grant r :: out)

/-- Grants slots to waiting requests while a slot is free. -/
def assignSlots (b : Books) (now : Instant) : Books × List Response :=
  assignFrom now b.available b.queue b.leases

/-- Handles a request for a slot. -/
def acquire (b : Books) (c : Config) (r : Request) (now : Instant) : Books × Admission :=
  if b.leases.contains r.requester then
    ({ b with leases := b.leases.modify r.requester (·.touch now) },
      .alreadyLeased (Response.grant r))
  else if b.available > 0 then
    (⟨b.available - 1, b.queue, b.leases.insert r.requester (Lease.grant r now)⟩,
      .granted (Response.grant r))
  else if b.queue.length ≥ c.queueDepth then
    (b, .exhausted (Response.reject r exhaustedCode
      ("emulator pool queue is full (" ++ toString b.queue.length ++ " waiting)")))
  else
    ({ b with queue := b.queue ++ [r] }, .queued b.queue.length)

/-- Releases the requester's lease, if held, then hands free slots to the queue. -/
def release (b : Books) (c : Config) (requester : String) (now : Instant) :
    Books × List Response :=
  let b := if b.leases.contains requester then
      ({ b with leases := b.leases.erase requester } : Books).reconcile c
    else b
  b.assignSlots now

/-- Records a heartbeat; false when the requester holds no lease. -/
def heartbeat (b : Books) (requester : String) (now : Instant) : Books × Bool :=
  if b.leases.contains requester then
    ({ b with leases := b.leases.modify requester (·.touch now) }, true)
  else (b, false)

/-- Changes the capacity; a value that is not positive is ignored. -/
def updateCapacity (b : Books) (c : Config) (capacity : Int) (now : Instant) :
    Books × Config × List Response :=
  if capacity ≤ 0 then (b, c, [])
  else
    let c := { c with capacity := capacity.toNat }
    let (b, out) := (b.reconcile c).assignSlots now
    (b, c, out)

/-- The requesters named by the leases silent for longer than the lease timeout. -/
def silent (b : Books) (c : Config) (now : Instant) : List String :=
  (b.leases.values.filter fun l => decide (c.leaseTimeout < now.elapsedSince l.lastHeartbeat)).map
    (·.requester)

/-- The timer sweep: reclaims silent leases, rejects timed-out requests, then assigns slots. -/
def expire (b : Books) (c : Config) (now : Instant) : Books × List Response :=
  let gone := b.silent c now
  let b := { b with leases := gone.foldl Leases.erase b.leases }
  let b := if gone.isEmpty then b else b.reconcile c
  let late := b.queue.filter (·.timedOut now)
  let b := { b with queue := b.queue.filter fun r => !r.timedOut now }
  let (b, out) := b.assignSlots now
  (b, late.map Response.timedOut ++ out)

/-- A point-in-time view. -/
def status (b : Books) (c : Config) : Status :=
  ⟨b.available, b.queue.length, b.leases.size, c.capacity⟩

/-- Whether free slots and leases add up to the capacity; the sum must fit 64 bits. -/
def balanced (b : Books) (c : Config) : Except String Bool :=
  if b.available + b.leases.size ≥ Nat.pow 2 64 then .error "attempt to add with overflow"
  else .ok (b.available + b.leases.size == c.capacity)

/-- The stored form. -/
def toJson (b : Books) : Json :=
  Json.record [("available_slots", Json.nat b.available),
    ("queued_requests", .array (b.queue.map Request.toJson)),
    ("active_leases", b.leases.toJson)]

/-- Reads the stored form; every field is required. -/
def decoder : Decoder Books := fun origin j => do
  let fs ← structFields "PoolState"
    [.req "available_slots" usize, .req "queued_requests" (listOf Request.decoder),
      .req "active_leases" Leases.decoder] origin j
  pure ⟨← fs.get "available_slots" usize, ← fs.get "queued_requests" (listOf Request.decoder),
    ← fs.get "active_leases" Leases.decoder⟩

end Books

end SlotKeeper.Pool
