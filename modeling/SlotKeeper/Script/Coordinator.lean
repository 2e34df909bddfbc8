import SlotKeeper.Pool.Coordinator
import SlotKeeper.Script.Views

/-!
# Scripted coordinator

Starts a coordinator from a seed and feeds it signals, timer ticks and queries. Every step answers
its own members plus the pool's status and the coordinator's snapshot after it.
-/

namespace SlotKeeper.Script.CoordinatorRun

open Json Pool Workflow

/-- The actions of a step as an answer member. -/
def actions (as : List Action) : List (String × Json) := [("actions", .array (as.map actionView))]

/-- Runs one step. -/
def step (c : Coordinator) (j : Json) : Coordinator × Reply :=
  if mentions j "signal" then
    let payload := (j.field? "payload").getD .null
    match (do
      let now ← needAs j "now" Instant.decoder
      pure (now, ← needText j "signal") : Except Json _) with
    | .ok (now, kind) =>
      let (c, as) := c.onSignal ⟨kind, payload, now⟩ now
      (c, .ok (actions as))
    | .error e => (c, .error e)
  else if mentions j "timer" then
    match (do
      let _ ← needText j "timer"
      needAs j "now" Instant.decoder : Except Json _) with
    | .ok now =>
      let (c, as) := c.onTimer now
      (c, .ok (actions as))
    | .error e => (c, .error e)
  else if mentions j "query" then
    match needText j "query" with
    | .ok q =>
      match c.onQuery q with
      | .ok v => (c, .ok [("query_ok", v)])
      | .error f => (c, .ok [("query_err", faultView f)])
    | .error e => (c, .error e)
  else (c, refuse "unknown coordinator step")

/-- Runs the steps in order, each answer extended with the status and snapshot after it. -/
def runSteps : Coordinator → List Json → List Json
  | _, [] => []
  | c, j :: rest =>
    let (c, r) := step c j
    r.extend [("status", c.status.toJson), ("snapshot", c.snapshot.toJson)] :: runSteps c rest

/-- Answers a scripted coordinator request. -/
def answer (j : Json) : Json := finish do
  let seed ← needAs j "input" Seed.decoder
  let c := Coordinator.start seed
  let items ← steps j
  let described : List (String × Json) :=
    if mentions j "describe" then
      [("config", c.config.toJson), ("state", c.books.toJson)]
    else []
  let initial := Json.record ([("snapshot", c.snapshot.toJson),
    ("timer_interval", c.timerInterval.toJson)] ++ described)
  pure (Json.record [("initial", initial), ("steps", .array (runSteps c items))])

end SlotKeeper.Script.CoordinatorRun
