import SlotKeeper.Workflow.Fault
import SlotKeeper.Time.Rfc3339

/-!
# Retry policies

A `Policy` says how often an exchange is tried and how long to wait between tries. Before try
`n` (counting from 1) the nominal wait is

  `initial · coefficient ^ (n - 2)`, capped at `max`,

computed in double precision: the power is taken by repeated squaring on a signed 32-bit
exponent (so huge try numbers wrap to negative exponents), the cap ignores a NaN wait, and the
result is rounded to the nearest nanosecond, a tie going to the even count. The first try waits
nothing.

A fault is tried again when it is retryable and its code is not listed as final, and only while
tries remain.
-/

namespace SlotKeeper.Backoff

open Json Workflow

/-- How an exchange is retried. -/
structure Policy where
  maxAttempts : Nat
  initialInterval : Span
  maxInterval : Span
  coefficient : Float
  jitter : Float
  finalCodes : List String
  deriving Inhabited

namespace Policy

/-- Five tries, one second doubling up to a minute, a tenth of jitter. -/
def exponential : Policy := ⟨5, Span.ofSeconds 1, Span.ofSeconds 60, 2.0, 0.1, []⟩

/-- A single try. -/
def noRetry : Policy := ⟨1, Span.zero, Span.zero, 1.0, 0.0, []⟩

/-- A fixed wait between a given number of tries. -/
def fixed (interval : Span) (maxAttempts : Nat) : Policy :=
  ⟨maxAttempts, interval, interval, 1.0, 0.0, []⟩

/-- At least one try. -/
def withMaxAttempts (p : Policy) (n : Nat) : Policy := { p with maxAttempts := max 1 n }

/-- Sets the first wait. -/
def withInitialInterval (p : Policy) (d : Span) : Policy := { p with initialInterval := d }

/-- Sets the longest wait. -/
def withMaxInterval (p : Policy) (d : Span) : Policy := { p with maxInterval := d }

/-- Sets the growth factor. -/
def withCoefficient (p : Policy) (c : Float) : Policy := { p with coefficient := c }

/-- Sets the jitter, held within `[0, 1]` (a NaN stays). -/
def withJitter (p : Policy) (j : Float) : Policy :=
  { p with jitter := if j < 0.0 then 0.0 else if j > 1.0 then 1.0 else j }

/-- Adds a code that is never retried. -/
def withFinalCode (p : Policy) (code : String) : Policy :=
  { p with finalCodes := p.finalCodes ++ [code] }

/-- A span in seconds as a double: whole seconds plus nanoseconds over `10^9`. -/
def seconds (d : Span) : Float :=
  Decimal.nearest d.secs 1 + Decimal.nearest d.subsecNanos 1 / 1000000000.0

/-- `a ^ b` by repeated squaring: odd steps multiply in, the exponent halves towards zero. -/
def powSteps (a r : Float) (b : Int) : Nat → Float
  | 0 => r
  | fuel + 1 =>
    let r := if b.natAbs % 2 = 1 then r * a else r
    let b := b.tdiv 2
    if b = 0 then r else powSteps (a * a) r b fuel

/-- `a ^ b` for a 32-bit exponent; a negative exponent gives the reciprocal. -/
def powi (a : Float) (b : Int) : Float :=
  let r := powSteps a 1.0 b 40
  if b < 0 then 1.0 / r else r

/-- The smaller of two doubles; a NaN gives way to the other. -/
def fmin (a b : Float) : Float :=
  if a.isNaN then b else if b.isNaN then a else if b < a then b else a

/-- The signed 32-bit reading of a 32-bit word. -/
def wrapI32 (n : Nat) : Int :=
  let w : Nat := n % 4294967296
  if w < 2147483648 then w else (w : Int) - 4294967296

/-- A non-negative number of seconds as a span, rounded to the nearest nanosecond. -/
def spanOfSeconds (x : Float) : Except String Span :=
  if x < 0.0 then .error "cannot convert float seconds to Duration: value is negative"
  else
    let bits := x.toBits.toNat
    let field := bits / Nat.pow 2 52 % Nat.pow 2 11
    if field ≥ 1023 + 64 then
      .error "cannot convert float seconds to Duration: value is either too big or NaN"
    else
      let b := Decimal.Binary.ofBits bits
      .ok ⟨Decimal.roundScaled (b.significand * 1000000000) 1 b.exponent⟩

/-- The jitter of a wait: a positive jitter on a positive wait draws an offset from
`(-spread, spread)`, `spread = wait · jitter`. The draw is refused when that range is empty (the
product underflows to zero) or when its width is not finite. A draw that is made cannot be
reproduced; the inputs never ask for one. -/
def spreadCheck (p : Policy) (capped : Float) : Except String Unit :=
  if p.jitter > 0.0 && capped > 0.0 then
    let spread := capped * p.jitter
    if !(-spread < spread) then .error "cannot sample empty range"
    else if (spread + spread).isInf then .error "UniformSampler::sample_single: range overflow"
    else .ok ()
  else .ok ()

/-- The wait `initial · coefficient ^ exponent`, capped at `max`. -/
def delayAtExponent (p : Policy) (exponent : Int) : Except String Span :=
  let base := seconds p.initialInterval * powi p.coefficient exponent
  let capped := fmin base (seconds p.maxInterval)
  match p.spreadCheck capped with
  | .error e => .error e
  | .ok () => spanOfSeconds capped

/-- The nominal wait before try `attempt`: the exponent is the try's number less two, taken as
the signed 32-bit reading of the retry count less one. -/
def delayForAttempt (p : Policy) (attempt : Nat) : Except String Span :=
  if attempt ≤ 1 then .ok Span.zero
  else
    let exponent := wrapI32 (attempt - 1)
    if exponent = -2147483648 then .error "attempt to subtract with overflow"
    else p.delayAtExponent (exponent - 1)

/-- Whether a fault is worth another try. -/
def shouldRetry (p : Policy) (f : Fault) : Bool :=
  f.retryable && match f.code with
    | some code => !p.finalCodes.contains code
    | none => true

/-- Whether tries remain after try `attempt`. -/
def hasAttemptsRemaining (p : Policy) (attempt : Nat) : Bool := attempt < p.maxAttempts

/-- The wait before the next try, when there is one. -/
def nextDelay (p : Policy) (attempt : Nat) (f : Fault) : Except String (Option Span) :=
  if p.hasAttemptsRemaining attempt && p.shouldRetry f then
    (p.delayForAttempt (attempt + 1)).map some
  else .ok none

/-- The stored form; spans are whole milliseconds. -/
def toJson (p : Policy) : Json :=
  Json.record [("max_attempts", Json.nat p.maxAttempts),
    ("initial_interval", p.initialInterval.toMillisJson),
    ("max_interval", p.maxInterval.toMillisJson),
    ("backoff_coefficient", Json.float p.coefficient), ("jitter", Json.float p.jitter),
    ("non_retryable_codes", .array (p.finalCodes.map .string))]

/-- Reads the stored form; the list of final codes may be absent. -/
def decoder : Decoder Policy := fun origin j => do
  let fs ← structFields "RetryPolicy"
    [.req "max_attempts" u32, .req "initial_interval" Span.millisDecoder,
      .req "max_interval" Span.millisDecoder, .req "backoff_coefficient" f64,
      .req "jitter" f64, .dflt "non_retryable_codes" (listOf text)] origin j
  pure ⟨← fs.get "max_attempts" u32, ← fs.get "initial_interval" Span.millisDecoder,
    ← fs.get "max_interval" Span.millisDecoder, ← fs.get "backoff_coefficient" f64,
    ← fs.get "jitter" f64, ← fs.getD "non_retryable_codes" (listOf text) []⟩

end Policy

end SlotKeeper.Backoff
