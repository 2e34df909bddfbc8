import SlotKeeper.Time.Watch
import SlotKeeper.Time.Rfc3339
import SlotKeeper.Script.Reply

/-!
# Scripted clocks

Drives a hand-driven clock and sleepers on it, and asks the system clock a few questions. Every
step answers which sleepers woke during it and which still sleep. Waits on the system clock are
measured against a guard of one hour: a wait that would take longer never returns.
-/

namespace SlotKeeper.Script.ClockRun

open Json

/-- The longest system wait that returns within the guard. -/
def guard : Span := Span.ofSeconds 3600

/-- A manual clock with the instant it started at. -/
structure Dial where
  clock : ManualClock.Shared
  start : Instant

/-- A sleeper: the clock it sleeps on (numbered in order of making), its deadline (none when it
cannot be represented), and whether it has woken. -/
structure Sleeper where
  clock : Nat
  deadline : Option Instant
  woken : Bool

/-- The state between steps: the latest clock, if made, how many clocks were made, and the
sleepers in creation order. A new clock replaces the old one; sleepers on the old one never
wake. -/
structure Scene where
  dial : Option Dial
  clocks : Nat
  sleepers : List Sleeper

/-- Makes a new clock starting at `t`. -/
def Scene.make (s : Scene) (t : Instant) : Scene :=
  { s with dial := some ⟨ManualClock.Shared.startingAt t, t⟩, clocks := s.clocks + 1 }

/-- Adds a sleeper on the latest clock; answers its number. -/
def Scene.sleep (s : Scene) (deadline : Option Instant) : Scene × Reply :=
  ({ s with sleepers := s.sleepers ++ [⟨s.clocks - 1, deadline, false⟩] },
    .ok [("sleeper", Json.nat s.sleepers.length)])

/-- The dial, or a refusal. -/
def dialOf (s : Scene) : Except Json Dial :=
  match s.dial with
  | some d => .ok d
  | none => refuse "no manual clock"

/-- The elapsed members of a dial: the signed difference in whole milliseconds, cut towards
zero, and the span, which is zero when the clock reads before its start. -/
def elapsed (d : Dial) : List (String × Json) :=
  let now := d.clock.now
  [("elapsed_ms", Json.int (Int.tdiv (now.since d.start) 1000000)),
    ("elapsed", (now.elapsedSince d.start).toJson)]

/-- Whether a system wait of `d` from `wall` returns within the guard. -/
def systemWaitReturns (wall : Instant) (d : Span) : Bool :=
  match wall.deadlineAfter d with
  | some _ => decide (d ≤ guard)
  | none => false

/-- Runs one step. -/
def step (wall : Instant) (s : Scene) (j : Json) : Scene × Reply :=
  let withDial (f : Dial → Except Json (Dial × List (String × Json))) : Scene × Reply :=
    match dialOf s >>= f with
    | .ok (d, members) => ({ s with dial := some d }, .ok members)
    | .error e => (s, .error e)
  match needText j "action" with
  | .error e => (s, .error e)
  | .ok "manual_default" => (s.make wall, .ok [("created", .bool true)])
  | .ok "manual_at" =>
    match needAs j "start" Instant.decoder with
    | .ok t => (s.make t, .ok [("created", .bool true)])
    | .error e => (s, .error e)
  | .ok "advance" => withDial fun d => do
    let ms ← needAs j "ms" Span.millisDecoder
    let d := { d with clock := d.clock.advance ms }
    pure (d, elapsed d)
  | .ok "set" => withDial fun d => do
    let t ← needAs j "to" Instant.decoder
    let d := { d with clock := d.clock.set t }
    pure (d, elapsed d)
  | .ok "now" => withDial fun d => pure (d, elapsed d)
  | .ok "now_absolute" => withDial fun d => pure (d, [("now", d.clock.now.toJson)])
  | .ok "sleep" =>
    match (do
      let d ← dialOf s
      let ms ← needAs j "ms" Span.millisDecoder
      pure (d.clock.sleepDeadline ms) : Except Json _) with
    | .ok deadline => s.sleep deadline
    | .error e => (s, .error e)
  | .ok "sleep_until" =>
    match (do
      let _ ← dialOf s
      needAs j "to" Instant.decoder : Except Json _) with
    | .ok t => s.sleep (some t)
    | .error e => (s, .error e)
  | .ok "system_sleep" =>
    match needAs j "ms" Span.millisDecoder with
    | .ok ms => (s, .ok [("returned", .bool (systemWaitReturns wall ms))])
    | .error e => (s, .error e)
  | .ok "system_sleep_until" =>
    match needAs j "to" Instant.decoder with
    | .ok t => (s, .ok [("returned", .bool (systemWaitReturns wall (t.elapsedSince wall)))])
    | .error e => (s, .error e)
  | .ok "system_now_after" =>
    match needAs j "ts" Instant.decoder with
    | .ok t => (s, .ok [("after", .bool (decide (t < wall)))])
    | .error e => (s, .error e)
  | .ok "deadline_after" =>
    match (do
      let now ← needAs j "now" Instant.decoder
      let ms ← needAs j "ms" Span.millisDecoder
      pure (now.deadlineAfter ms) : Except Json _) with
    | .ok t => (s, .ok [("deadline", Json.opt Instant.toJson t)])
    | .error e => (s, .error e)
  | .ok "elapsed_since" =>
    match (do
      let now ← needAs j "now" Instant.decoder
      let earlier ← needAs j "earlier" Instant.decoder
      pure (now.elapsedSince earlier) : Except Json _) with
    | .ok e => (s, .ok [("elapsed", e.toJson)])
    | .error e => (s, .error e)
  | .ok a => (s, refuse ("unknown clock action " ++ a))

/-- Whether a sleeper's deadline has come: it sleeps on the latest clock and that clock reached
its deadline. -/
def Scene.due (s : Scene) (z : Sleeper) : Bool :=
  match s.dial with
  | some d => z.clock + 1 == s.clocks && d.clock.wakes z.deadline
  | none => false

/-- Marks the sleepers whose deadline has come; answers who woke now and who still sleeps. -/
def wake (s : Scene) : Scene × List Nat × List Nat :=
  let rows := s.sleepers.zipIdx
  let woke := rows.filterMap fun (z, i) => if !z.woken && s.due z then some i else none
  let sleeping := rows.filterMap fun (z, i) => if z.woken || s.due z then none else some i
  ({ s with sleepers := s.sleepers.map fun z => { z with woken := z.woken || s.due z } },
    woke, sleeping)

/-- Runs the steps in order. -/
def runSteps (wall : Instant) : Scene → List Json → List Json
  | _, [] => []
  | s, j :: rest =>
    let (s, r) := step wall s j
    let (s, woke, sleeping) := wake s
    r.extend [("woke", .array (woke.map Json.nat)), ("sleeping", .array (sleeping.map Json.nat))]
      :: runSteps wall s rest

/-- Answers a scripted clock request. -/
def answer (wall : Instant) (j : Json) : Json := finish do
  let items ← stepList j
  pure (Json.record [("steps", .array (runSteps wall ⟨none, 0, []⟩ items))])

end SlotKeeper.Script.ClockRun
