import SlotKeeper.Time.Rfc3339

/-!
# Pool configuration

A `Config` holds the pool's four tunables: how many slots may be leased at once, how many
requests may wait, how long a lease may go without a heartbeat, and the period of the sweep.

A zero tunable means "unset": `withDefaults` replaces each zero by its default, and `mergedWith`
lets each non-zero field of the overrides win. `fromEnv` reads the four environment variables;
a value counts only when, once surrounding blanks are trimmed, it is a positive decimal number
below `2^64` with at most a leading `+`. The two span variables are seconds.
-/

namespace SlotKeeper.Pool

open Json

/-- The tunables of the pool. -/
structure Config where
  capacity : Nat
  queueDepth : Nat
  leaseTimeout : Span
  heartbeatInterval : Span
  deriving DecidableEq, Repr, Inhabited

namespace Config

/-- Five slots, a hundred waiting requests, ten-minute leases and a thirty-second sweep. -/
def default : Config := ⟨5, 100, Span.ofSeconds 600, Span.ofSeconds 30⟩

/-- The name of the capacity variable. -/
def capacityVariable : String := "EMULATOR_POOL_MAX_CONCURRENT"
/-- The name of the queue depth variable. -/
def queueDepthVariable : String := "EMULATOR_POOL_MAX_QUEUE_DEPTH"
/-- The name of the lease timeout variable, in seconds. -/
def leaseTimeoutVariable : String := "EMULATOR_POOL_LEASE_TIMEOUT_SECS"
/-- The name of the sweep period variable, in seconds. -/
def heartbeatIntervalVariable : String := "EMULATOR_POOL_HEARTBEAT_INTERVAL_SECS"

/-- `value`, or `fallback` when `value` is zero. -/
def nonZeroOr (value fallback : Nat) : Nat := if value = 0 then fallback else value

/-- A span, or `fallback` when the span is empty. -/
def nonEmptyOr (value fallback : Span) : Span := if value.nanos = 0 then fallback else value

/-- The fields of `c`, each zero one taken from `base`. -/
def overlay (c base : Config) : Config :=
  ⟨nonZeroOr c.capacity base.capacity, nonZeroOr c.queueDepth base.queueDepth,
    nonEmptyOr c.leaseTimeout base.leaseTimeout,
    nonEmptyOr c.heartbeatInterval base.heartbeatInterval⟩

/-- Replaces zero fields by their defaults. -/
def withDefaults (c : Config) : Config := overlay c default

example : withDefaults ⟨0, 0, Span.zero, Span.zero⟩ = default := by decide

/-- Overlays `overrides` on `c`: each non-zero override field wins. -/
def mergedWith (c overrides : Config) : Config := overlay overrides c

/-- Digits only, at least one, the value below `2^64`. -/
def digitsValue (cs : List Char) : Option Nat :=
  if cs.isEmpty || !cs.all (fun c => '0' ≤ c && c ≤ '9') then none
  else
    let v := cs.foldl (fun acc c => acc * 10 + (c.toNat - 48)) 0
    if v < Nat.pow 2 64 then some v else none

/-- An unsigned 64-bit decimal: an optional `+`, then digits. -/
def unsignedValue (s : String) : Option Nat :=
  match s.toList with
  | '+' :: rest => digitsValue rest
  | cs => digitsValue cs

/-- A variable's value when it is set and, trimmed, a positive number. -/
def positive (lookup : String → Option String) (name : String) : Option Nat :=
  match lookup name with
  | some s =>
    match unsignedValue (Text.trimBlank s) with
    | some v => if v > 0 then some v else none
    | none => none
  | none => none

/-- Reads the configuration from variables; unset or unusable ones keep their default. -/
def fromEnv (lookup : String → Option String) : Config :=
  ⟨(positive lookup capacityVariable).getD default.capacity,
    (positive lookup queueDepthVariable).getD default.queueDepth,
    ((positive lookup leaseTimeoutVariable).map Span.ofSeconds).getD default.leaseTimeout,
    ((positive lookup heartbeatIntervalVariable).map Span.ofSeconds).getD
      default.heartbeatInterval⟩

/-- The stored form; spans are whole milliseconds. -/
def toJson (c : Config) : Json :=
  Json.record [("max_concurrent_emulators", Json.nat c.capacity),
    ("max_queue_depth", Json.nat c.queueDepth),
    ("lease_timeout", c.leaseTimeout.toMillisJson),
    ("heartbeat_interval", c.heartbeatInterval.toMillisJson)]

/-- Reads the stored form; every field is required. -/
def decoder : Decoder Config := fun origin j => do
  let fs ← structFields "PoolConfig"
    [.req "max_concurrent_emulators" usize, .req "max_queue_depth" usize,
      .req "lease_timeout" Span.millisDecoder, .req "heartbeat_interval" Span.millisDecoder]
    origin j
  pure ⟨← fs.get "max_concurrent_emulators" usize, ← fs.get "max_queue_depth" usize,
    ← fs.get "lease_timeout" Span.millisDecoder, ← fs.get "heartbeat_interval" Span.millisDecoder⟩

end Config

end SlotKeeper.Pool
