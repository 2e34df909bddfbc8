import SlotKeeper.Workflow.Program

/-!
# The echo workflow

A small workflow that counts the signals it receives in an unsigned 64-bit word. Its input and
snapshot are the count. On every signal, whatever its name, it adds one, and crashes when the
count would overflow; if the payload has `"none": true` it asks for
nothing once, and if the payload names a `reply_to` mailbox it sends `echoed` with the new count
there. It ticks every minute and ignores the ticks, and answers no queries.
-/

namespace SlotKeeper.Workflow

open Json

namespace Echo

/-- The type name of echo runs. -/
def typeName : String := "echo_workflow"

/-- The largest count, that of an unsigned 64-bit word. -/
def maxCount : Nat := 18446744073709551615

/-- Counts a signal and answers it; counting past `maxCount` overflows and crashes. -/
def onSignal (count : Nat) (s : Signal) (now : Instant) : Except String (Nat × List Action) :=
  let n := count + 1
  if maxCount < n then .error "attempt to add with overflow" else
  let idle := if (s.payload.field? "none").any (·.isTrue) then [Action.idle] else []
  let reply := match s.payload.field? "reply_to" with
    | some (.string target) =>
      [Action.send target ⟨"echoed", Json.record [("count", Json.nat n)], now⟩]
    | _ => []
  .ok (n, idle ++ reply)

end Echo

/-- The echo workflow. -/
def echo : Program Nat Nat where
  typeName := Echo.typeName
  inputDecoder := u64
  encode := Json.nat
  new := id
  interval := fun _ => Span.ofSeconds 60
  onSignal := Echo.onSignal
  onTimer := ignoreTick
  onQuery := answerNothing
  snapshot := id

theorem echo_counts (n : Nat) (s : Signal) (now : Instant) :
    (echo.onSignal n s now).map Prod.fst =
      if Echo.maxCount < n + 1 then .error "attempt to add with overflow" else .ok (n + 1) := by
  simp only [echo, Echo.onSignal]
  split <;> rfl

end SlotKeeper.Workflow
