import SlotKeeper.Backoff.Policy
import SlotKeeper.Script.Views

/-!
# Scripted retry policies

Builds a retry policy from a preset and builder steps, then answers a list of calls on it.
-/

namespace SlotKeeper.Script.RetryRun

open Json Backoff Workflow

/-- Applies one builder step. -/
def build (p : Policy) (b : Json) : Except Json Policy :=
  if let some v := b.field? "max_attempts" then do
    pure (p.withMaxAttempts (← decodeWith u32 v))
  else if let some v := b.field? "initial_interval_ms" then do
    pure (p.withInitialInterval (← decodeWith Span.millisDecoder v))
  else if let some v := b.field? "max_interval_ms" then do
    pure (p.withMaxInterval (← decodeWith Span.millisDecoder v))
  else if let some v := b.field? "backoff_coefficient" then do
    pure (p.withCoefficient (← decodeWith f64 v))
  else if let some v := b.field? "jitter" then do
    pure (p.withJitter (← decodeWith f64 v))
  else if let some v := b.field? "non_retryable_code" then do
    pure (p.withFinalCode (← decodeWith text v))
  else refuse "unknown retry builder"

/-- Builds the policy a description names. -/
def policyOf (j : Json) : Except Json Policy := do
  let start ← match ← needText j "preset" with
    | "exponential" | "default" => pure Policy.exponential
    | "no_retry" => pure Policy.noRetry
    | "fixed" => do
      let interval ← needAs j "interval_ms" Span.millisDecoder
      let attempts ← needAs j "max_attempts" u32
      pure (Policy.fixed interval attempts)
    | "json" => needAs j "value" Policy.decoder
    | p => refuse ("unknown retry preset " ++ p)
  let steps ← match j.field? "builders" with
    | some v => decodeWith (listOf anyValue) v
    | none => pure []
  steps.foldlM build start

/-- A panic answer from a failed computation. -/
def panicked {α : Type} (r : Except String α) : Except Json α :=
  match r with
  | .ok a => .ok a
  | .error m => .error (failure "panic" m)

/-- Answers one call. -/
def call (p : Policy) (c : Json) : Json := Reply.toJson do
  if let some v := c.field? "delay_for_attempt" then
    let d ← panicked (p.delayForAttempt (← decodeWith u32 v))
    pure [("delay", d.toJson)]
  else if let some v := c.field? "should_retry" then
    pure [("retry", .bool (p.shouldRetry (← decodeWith Fault.decoder v)))]
  else if let some v := c.field? "has_attempts_remaining" then
    pure [("remaining", .bool (p.hasAttemptsRemaining (← decodeWith u32 v)))]
  else if let some v := c.field? "next_delay" then
    let attempt ← decodeWith u32 v
    let f ← needAs c "error" Fault.decoder
    let d ← panicked (p.nextDelay attempt f)
    pure [("next", Json.opt Span.toJson d)]
  else refuse "unknown retry call"

/-- Answers a scripted retry request. -/
def answer (j : Json) : Json := finish do
  let p ← policyOf (← need j "policy")
  let calls ← match ← need j "calls" with
    | .array items => pure items
    | _ => refuse "calls must be an array"
  pure (Json.record [("policy", p.toJson), ("results", .array (calls.map (call p)))])

end SlotKeeper.Script.RetryRun
