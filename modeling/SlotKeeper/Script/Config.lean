import SlotKeeper.Pool.Config
import SlotKeeper.Script.Reply

/-!
# Scripted configuration

Builds a pool configuration by one of its constructors and answers `{"config": ...}`.

Reading the process environment first sets the given variables there, in name order. The
environment refuses a name or value holding a NUL character, and a name that is empty or holds
`=`; the first refusal ends the whole request as a `panic`.
-/

namespace SlotKeeper.Script.ConfigRun

open Json Pool

/-- Applies one builder step. -/
def build (c : Config) (b : Json) : Except Json Config :=
  if let some v := b.field? "max_concurrent_emulators" then do
    pure { c with capacity := ← decodeWith usize v }
  else if let some v := b.field? "max_queue_depth" then do
    pure { c with queueDepth := ← decodeWith usize v }
  else if let some v := b.field? "lease_timeout_ms" then do
    pure { c with leaseTimeout := ← decodeWith Span.millisDecoder v }
  else if let some v := b.field? "heartbeat_interval_ms" then do
    pure { c with heartbeatInterval := ← decodeWith Span.millisDecoder v }
  else refuse "unknown config builder"

/-- The variables of an `env` member: an object whose values are strings, by name. -/
def envVariables (j : Json) : Except Json (List (String × String)) :=
  needAs j "env" fun origin v =>
    match v with
    | .object members => members.mapM fun (k, x) => do pure (k, ← text origin x)
    | other => mismatch other "a map"

/-- Looks a variable up among the given ones. -/
def lookup (vars : List (String × String)) (name : String) : Option String :=
  (vars.find? (·.1 == name)).map (·.2)

/-- Why the process environment refuses a variable: a name or value holding a NUL character,
or a name that is empty or holds `=`. -/
def refusal (name value : String) : Option String :=
  if name.toList.contains (Char.ofNat 0) || value.toList.contains (Char.ofNat 0) then
    some "file name contained an unexpected NUL byte"
  else if name.isEmpty || name.toList.contains '=' then some "Invalid argument (os error 22)"
  else none

/-- Sets the variables in the process environment, in order: the first one refused crashes,
with this text. -/
def setAll : List (String × String) → Except String Unit
  | [] => .ok ()
  | (name, value) :: rest =>
    match refusal name value with
    | some why =>
      .error ("failed to set environment variable `" ++ debugQuote name ++ "` to `" ++
        debugQuote value ++ "`: " ++ why)
    | none => setAll rest

/-- The variables of an `env` member, set in the process environment first when `process`; a
refused variable is a `panic` answer. -/
def environment (j : Json) (process : Bool) : Except Json (String → Option String) := do
  let vars ← envVariables j
  if process then
    match setAll vars with
    | .error crash => throw (failure "panic" crash)
    | .ok () => pure ()
  pure (lookup vars)

/-- Builds the configuration an action names. -/
def configOf (j : Json) : Except Json Config := do
  match ← needText j "action" with
  | "default" => pure Config.default
  | "builders" =>
    let start ← (mayHave j "config" Config.decoder).map (·.getD Config.default)
    let steps ← needAs j "builders" (listOf anyValue)
    steps.foldlM build start
  | "from_env" => pure (Config.fromEnv (← environment j false))
  | "from_process_env" => pure (Config.fromEnv (← environment j true))
  | "decode" => needAs j "config" Config.decoder
  | "with_defaults" => pure (← needAs j "config" Config.decoder).withDefaults
  | "merged_with" => do
    let base ← needAs j "base" Config.decoder
    let overrides ← needAs j "overrides" Config.decoder
    pure (base.mergedWith overrides)
  | a => refuse ("unknown config action " ++ a)

/-- Answers a scripted configuration request. -/
def answer (j : Json) : Json := finish do
  let c ← configOf j
  pure (Json.record [("config", c.toJson)])

end SlotKeeper.Script.ConfigRun
