import SlotKeeper.Pool.Books
import SlotKeeper.Workflow.Program

/-!
# The pool coordinator

The coordinator is the workflow that owns the pool's books. It starts from a configuration, with
each zero tunable replaced by its default, and from given books or an empty pool. Each signal
runs one transition and turns the responses into `SlotResponse` signals addressed to their
requesters; its timer runs the expiry sweep; its one query reports the pool's status.

Signals it does not know, and payloads that do not decode, are dropped without an answer.
-/

namespace SlotKeeper.Pool

open Json Workflow

/-- The workflow type name of the coordinator. -/
def coordinatorType : String := "emulator_pool_coordinator"

/-- The name of the status query. -/
def statusQuery : String := "GetPoolStatus"

/-- What a coordinator is started from: a configuration and, possibly, books. -/
structure Seed where
  config : Config
  books : Option Books
  deriving DecidableEq, Repr, Inhabited

namespace Seed

/-- The stored form; absent books are `null`. -/
def toJson (s : Seed) : Json :=
  Json.record [("config", s.config.toJson), ("state", Json.opt Books.toJson s.books)]

/-- Reads the stored form; the books may be absent or `null`. -/
def decoder : Decoder Seed := fun origin j => do
  let fs ← structFields "CoordinatorInput"
    [.req "config" Config.decoder, .dflt "state" (optional Books.decoder)] origin j
  pure ⟨← fs.get "config" Config.decoder, ← fs.getD "state" (optional Books.decoder) none⟩

end Seed

/-- The coordinator's state: its configuration and the books. -/
structure Coordinator where
  config : Config
  books : Books
  deriving DecidableEq, Repr, Inhabited

namespace Coordinator

/-- Starts a coordinator; zero tunables take their defaults. -/
def start (s : Seed) : Coordinator :=
  let config := s.config.withDefaults
  ⟨config, s.books.getD (Books.fresh config)⟩

/-- The period of the expiry sweep. -/
def timerInterval (c : Coordinator) : Span := c.config.heartbeatInterval

/-- The pool's status. -/
def status (c : Coordinator) : Status := c.books.status c.config

/-- What restarting the coordinator from here needs. -/
def snapshot (c : Coordinator) : Seed := ⟨c.config, some c.books⟩

/-- Responses as signals to their requesters, stamped `now`. -/
def respond (now : Instant) (rs : List Response) : List Action :=
  rs.map fun r => .send r.requester ⟨"SlotResponse", r.toJson, now⟩

/-- Handles a signal. -/
def onSignal (c : Coordinator) (s : Signal) (now : Instant) : Coordinator × List Action :=
  match s.kind with
  | "AcquireSlot" =>
    match decode Request.decoder s.payload with
    | .ok r =>
      let (b, a) := c.books.acquire c.config r now
      ({ c with books := b }, respond now a.response?.toList)
    | .error _ => (c, [])
  | "ReleaseSlot" =>
    match decode (Holder.decoder "PoolRelease") s.payload with
    | .ok h =>
      let (b, rs) := c.books.release c.config h.requester now
      ({ c with books := b }, respond now rs)
    | .error _ => (c, [])
  | "Heartbeat" =>
    match decode (Holder.decoder "PoolHeartbeat") s.payload with
    | .ok h => ({ c with books := (c.books.heartbeat h.requester now).1 }, [])
    | .error _ => (c, [])
  | "UpdateCapacity" =>
    match decode capacityDecoder s.payload with
    | .ok n =>
      let (b, config, rs) := c.books.updateCapacity c.config n now
      (⟨config, b⟩, respond now rs)
    | .error _ => (c, [])
  | _ => (c, [])

/-- Handles a timer tick: the expiry sweep. -/
def onTimer (c : Coordinator) (now : Instant) : Coordinator × List Action :=
  let (b, rs) := c.books.expire c.config now
  ({ c with books := b }, respond now rs)

/-- Answers a query: the status query, or a coded refusal. -/
def onQuery (c : Coordinator) (query : String) : Except Fault Json :=
  if query = statusQuery then .ok c.status.toJson
  else .error (unknownQuery query)

end Coordinator

/-- The coordinator as a workflow program. -/
def coordinator : Program Seed Coordinator where
  typeName := coordinatorType
  inputDecoder := Seed.decoder
  encode := Seed.toJson
  new := Coordinator.start
  interval := Coordinator.timerInterval
  onSignal := fun c s now => .ok (c.onSignal s now)
  onTimer := fun c _ now => c.onTimer now
  onQuery := Coordinator.onQuery
  snapshot := Coordinator.snapshot

end SlotKeeper.Pool
