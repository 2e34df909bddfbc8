import SlotKeeper.Engine.World
import SlotKeeper.Pool.Failure
import SlotKeeper.Backoff.Policy

/-!
# Pool clients

A pool client lives inside a requesting workflow and owns the mailbox at the requester's
identity, where the coordinator addresses its `SlotResponse` signals.

* Acquiring sends a request with a fresh request id and the clock's reading, then waits on the
  mailbox: other signals, undecodable responses and responses to other requests are skipped,
  queries are refused, a grant ends the wait, a rejection fails it, and a closed mailbox fails it.
* Acquiring with a retry policy runs attempts, numbered from one, until one succeeds or the policy
  gives up on the failure; between attempts it sleeps on the clock for the policy's delay. A delay
  the policy cannot compute crashes the acquisition.
* Releasing, heartbeating and changing the capacity are plain sends.
* A heartbeat loop sleeps one interval on the clock, sends a heartbeat, and repeats until it is
  stopped; sends that fail are ignored.
-/

namespace SlotKeeper.Pool

open Json Workflow Engine Backoff

/-- The `k`-th request id a client mints. -/
def requestId (k : Nat) : Uuid := ⟨0xeeeeeeeeeeee7eeebeee * Nat.pow 2 48 + k % Nat.pow 2 48⟩

/-- A pool client: who it is, the coordinator it talks to, and its mailbox. -/
structure Client where
  requester : String
  run : String
  coordinator : String
  mailbox : Nat
  deriving Inhabited

/-- A running acquisition, between wake-ups. -/
inductive Attempt where
  /-- Waiting for the answer to the request. -/
  | awaiting (request : Request)
  /-- Sleeping until the deadline before the next attempt; none sleeps for ever. -/
  | resting (deadline : Option Instant)

/-- An acquisition: the queue timeout it asks for, the retry policy if any, the attempt number,
and where it stands. -/
structure Acquisition where
  timeout : Span
  policy : Option Policy
  attempt : Nat
  phase : Attempt

/-- An acquisition after a step: still going, done with its outcome, or crashed with the text of
the fault (a retry delay that cannot be computed). -/
inductive Acquiring where
  | going (a : Acquisition)
  | done (outcome : Except PoolError Response)
  | crashed (fault : String)

/-- A heartbeat loop: what it sends where, how often, and its next deadline. -/
structure Heartbeats where
  coordinator : String
  holder : Holder
  interval : Span
  deadline : Option Instant

namespace Client

/-- Opens a client for a requester: registers its mailbox. -/
def «open» (requester run : String) : WorldM Client := do
  let g ← World.onBus (·.register requester)
  pure ⟨requester, run, coordinatorId, g⟩

/-- The client's diagnostic text. -/
def debugText (c : Client) : String :=
  "PoolClient \x7b requester_id: " ++ debugQuote c.requester ++ ", run_id: " ++
    debugQuote c.run ++ ", coordinator_id: " ++ debugQuote c.coordinator ++ " \x7d"

/-- Sends a signal to the client's coordinator. -/
def send (c : Client) (kind : String) (payload : Json) : WorldM (Except PoolError Unit) := do
  let now := (← get).clock.now
  let r ← World.onBus fun b => b.signal c.coordinator ⟨kind, payload, now⟩
  pure (r.mapError PoolError.delivery)

/-- The holder this client names in releases and heartbeats. -/
def holder (c : Client) : Holder := ⟨c.requester, c.run⟩

/-- Gives the slot back. -/
def release (c : Client) : WorldM (Except PoolError Unit) :=
  c.send releaseSignal c.holder.toJson

/-- Tells the coordinator the holder is alive. -/
def heartbeat (c : Client) : WorldM (Except PoolError Unit) :=
  c.send heartbeatSignal c.holder.toJson

/-- Asks the coordinator to change the number of slots. -/
def updateCapacity (c : Client) (n : Int) : WorldM (Except PoolError Unit) :=
  c.send capacitySignal (capacityPayload n)

/-- After a failed attempt: gives up, or sleeps for the policy's delay before the next one. -/
def retryAfter (a : Acquisition) (e : PoolError) : WorldM Acquiring := do
  match a.policy with
  | none => pure (.done (.error e))
  | some p =>
    match p.nextDelay a.attempt e.toFault with
    | .ok (some d) =>
      let now := (← get).clock.now
      pure (.going { a with phase := .resting (Instant.deadlineAfter now d) })
    | .ok none => pure (.done (.error e))
    | .error crash => pure (.crashed crash)

/-- Runs one attempt: sends a request with a fresh id and waits for its answer. -/
def attempt (c : Client) (a : Acquisition) : WorldM Acquiring := do
  let w ← get
  set { w with requests := w.requests + 1 }
  let request : Request :=
    ⟨c.requester, c.run, (requestId w.requests).render, w.clock.now, a.timeout, 0⟩
  match ← c.send acquireSignal request.toJson with
  | .error e => retryAfter a e
  | .ok () => pure (.going { a with phase := .awaiting request })

/-- Starts acquiring a slot, with a retry policy or without. -/
def acquire (c : Client) (timeout : Span) (policy : Option Policy) : WorldM Acquiring :=
  c.attempt ⟨timeout, policy, 1, .resting none⟩

/-- Whether an acquisition has something to handle. -/
def ready (w : World) (c : Client) (a : Acquisition) : Bool :=
  match a.phase with
  | .awaiting _ => w.bus.ready c.mailbox
  | .resting deadline => w.clock.reached deadline

/-- Handles one wake-up of an acquisition. -/
def poll (c : Client) (a : Acquisition) : WorldM Acquiring := do
  match a.phase with
  | .resting deadline =>
    if (← get).clock.reached deadline then c.attempt { a with attempt := a.attempt + 1 }
    else pure (.going a)
  | .awaiting request =>
    match ← World.onBus (·.next c.mailbox) with
    | some (.query q) =>
      World.changeBus (·.answer q.ticket
        (.error (.rejected (Fault.final "pool client does not answer queries"))))
      pure (.going a)
    | some .closed => retryAfter a (.mailboxClosed c.requester)
    | some (.signal s) =>
      if !s.isKind responseSignal then pure (.going a)
      else
        match decode Response.decoder s.payload with
        | .error _ => pure (.going a)
        | .ok r =>
          if r.request != request.id then pure (.going a)
          else if r.granted then pure (.done (.ok r))
          else retryAfter a (PoolError.ofRejection r.code r.message)
    | none => pure (.going a)

/-- Starts a heartbeat loop; its first deadline is one interval from now. -/
def heartbeats (c : Client) (interval : Span) : WorldM Heartbeats := do
  let now := (← get).clock.now
  pure ⟨c.coordinator, c.holder, interval, Instant.deadlineAfter now interval⟩

end Client

namespace Heartbeats

/-- Whether the loop's deadline has come. -/
def ready (w : World) (h : Heartbeats) : Bool := w.clock.reached h.deadline

/-- Sends a heartbeat if the deadline has come, ignoring failures, and sets the next deadline. -/
def poll (h : Heartbeats) : WorldM Heartbeats := do
  let now := (← get).clock.now
  if !(ManualClock.reached ⟨now⟩ h.deadline) then return h
  let _ ← World.onBus fun b => b.signal h.coordinator ⟨heartbeatSignal, h.holder.toJson, now⟩
  pure { h with deadline := Instant.deadlineAfter now h.interval }

end Heartbeats

end SlotKeeper.Pool
