import SlotKeeper.Pool.Books
import SlotKeeper.Script.Reply

/-!
# Scripted pool transitions

Runs a list of steps directly against the pool's books, with the configuration used exactly as
given. Each step answers its own members plus the books and the capacity after it, also when the
step failed.
-/

namespace SlotKeeper.Script.PoolState

open Json Pool

/-- The books and configuration between steps. -/
structure Scene where
  books : Books
  config : Config

/-- A list of responses as an answer member. -/
def responses (rs : List Response) : List (String × Json) :=
  [("responses", .array (rs.map Response.toJson))]

/-- The answer members of an admission. -/
def admission (a : Admission) : List (String × Json) :=
  let outcome : List (String × Json) := match a with
    | .granted r => [("outcome", .string "granted"), ("response", r.toJson)]
    | .alreadyLeased r => [("outcome", .string "already_leased"), ("response", r.toJson)]
    | .exhausted r => [("outcome", .string "exhausted"), ("response", r.toJson)]
    | .queued n => [("outcome", .string "queued"), ("position", Json.nat n)]
  outcome ++ [("into_response", Json.opt Response.toJson a.response?)]

/-- Runs one step. -/
def step (s : Scene) (j : Json) : Scene × Reply :=
  let now := fun (_ : Unit) => needAs j "now" Instant.decoder
  if let some v := j.field? "acquire" then
    match (do
      let r ← decodeWith Request.decoder v
      let t ← now ()
      pure (r, t) : Except Json _) with
    | .ok (r, t) =>
      let (b, a) := s.books.acquire s.config r t
      ({ s with books := b }, .ok (admission a))
    | .error e => (s, .error e)
  else if let some v := j.field? "release" then
    match (do
      let id ← decodeWith text v
      let t ← now ()
      pure (id, t) : Except Json _) with
    | .ok (id, t) =>
      let (b, rs) := s.books.release s.config id t
      ({ s with books := b }, .ok (responses rs))
    | .error e => (s, .error e)
  else if let some v := j.field? "heartbeat" then
    match (do
      let id ← decodeWith text v
      let t ← now ()
      pure (id, t) : Except Json _) with
    | .ok (id, t) =>
      let (b, ok) := s.books.heartbeat id t
      ({ s with books := b }, .ok [("ok", .bool ok)])
    | .error e => (s, .error e)
  else if let some v := j.field? "update_capacity" then
    match (do
      let n ← decodeWith i64 v
      let t ← now ()
      pure (n, t) : Except Json _) with
    | .ok (n, t) =>
      let (b, c, rs) := s.books.updateCapacity s.config n t
      (⟨b, c⟩, .ok (responses rs))
    | .error e => (s, .error e)
  else if let some v := j.field? "expire" then
    match decodeWith Instant.decoder v with
    | .ok t =>
      let (b, rs) := s.books.expire s.config t
      ({ s with books := b }, .ok (responses rs))
    | .error e => (s, .error e)
  else if let some v := j.field? "assign_slots" then
    match decodeWith Instant.decoder v with
    | .ok t =>
      let (b, rs) := s.books.assignSlots t
      ({ s with books := b }, .ok (responses rs))
    | .error e => (s, .error e)
  else if (j.field? "status").isSome then
    (s, .ok [("status", (s.books.status s.config).toJson)])
  else if (j.field? "is_balanced").isSome then
    match s.books.balanced s.config with
    | .ok b => (s, .ok [("balanced", .bool b)])
    | .error m => (s, .error (failure "panic" m))
  else (s, refuse "unknown pool_state step")

/-- Runs the steps in order, each answer extended with the books and capacity after it. -/
def runSteps : Scene → List Json → List Json
  | _, [] => []
  | s, j :: rest =>
    let (s, r) := step s j
    r.extend [("state", s.books.toJson), ("max_concurrent_emulators", Json.nat s.config.capacity)]
      :: runSteps s rest

/-- Answers a scripted pool request. -/
def answer (j : Json) : Json := finish do
  let config ← needAs j "config" Config.decoder
  let books ← (mayHave j "state" Books.decoder).map (·.getD (Books.fresh config))
  let items ← steps j
  pure (Json.record [("steps", .array (runSteps ⟨books, config⟩ items))])

end SlotKeeper.Script.PoolState
