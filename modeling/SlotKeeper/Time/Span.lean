import SlotKeeper.Json.Value

/-!
# Spans of time

A `Span` is a non-negative length of time counted in nanoseconds. Spans written by the pool
are whole milliseconds; spans computed from two instants or from a float of seconds keep every
nanosecond.

`Span.debugText` is the compact unit text used in diagnostics: the integer part, then the
non-zero fraction digits with no trailing zeros, in seconds from one second up and otherwise in
the largest of `ms`, `µs`, `ns` that is at most the span (`0ns`, `999ms`, `1.001s`).
-/

namespace SlotKeeper

/-- A non-negative span of time in nanoseconds. -/
structure Span where
  nanos : Nat
  deriving DecidableEq, Repr, Inhabited

namespace Span

/-- Nanoseconds in a second. -/
def nanosPerSecond : Nat := 1000000000

/-- The empty span. -/
def zero : Span := ⟨0⟩

/-- A span of whole milliseconds. -/
def ofMillis (ms : Nat) : Span := ⟨ms * 1000000⟩

/-- A span of whole seconds. -/
def ofSeconds (s : Nat) : Span := ⟨s * nanosPerSecond⟩

/-- Whole seconds. -/
def secs (d : Span) : Nat := d.nanos / nanosPerSecond

/-- The nanoseconds past the whole seconds. -/
def subsecNanos (d : Span) : Nat := d.nanos % nanosPerSecond

/-- Whole milliseconds. -/
def millis (d : Span) : Nat := d.nanos / 1000000

/-- Whole milliseconds, capped at the largest unsigned 64-bit value. -/
def millisCapped (d : Span) : Nat := min d.millis (Nat.pow 2 64 - 1)

instance : LE Span := ⟨fun a b => a.nanos ≤ b.nanos⟩
instance : LT Span := ⟨fun a b => a.nanos < b.nanos⟩
instance (a b : Span) : Decidable (a ≤ b) := inferInstanceAs (Decidable (a.nanos ≤ b.nanos))
instance (a b : Span) : Decidable (a < b) := inferInstanceAs (Decidable (a.nanos < b.nanos))

/-- The fraction digits of `frac` below `divisor · 10`, without trailing zeros. -/
def fractionDigits : Nat → Nat → Nat → List Char
  | 0, _, _ => []
  | fuel + 1, frac, divisor =>
    if frac = 0 ∨ divisor = 0 then []
    else Char.ofNat (48 + frac / divisor) :: fractionDigits fuel (frac % divisor) (divisor / 10)

/-- An integer part, its fraction below `divisor · 10`, and a unit. -/
def decimalUnit (whole frac divisor : Nat) (unit : String) : String :=
  let fracText := String.ofList (fractionDigits 10 frac divisor)
  toString whole ++ (if fracText.isEmpty then "" else "." ++ fracText) ++ unit

/-- The compact unit text of a span. -/
def debugText (d : Span) : String :=
  if d.secs > 0 then decimalUnit d.secs d.subsecNanos (nanosPerSecond / 10) "s"
  else if d.subsecNanos ≥ 1000000 then
    decimalUnit (d.subsecNanos / 1000000) (d.subsecNanos % 1000000) 100000 "ms"
  else if d.subsecNanos ≥ 1000 then
    decimalUnit (d.subsecNanos / 1000) (d.subsecNanos % 1000) 100 "µs"
  else toString d.subsecNanos ++ "ns"

example : debugText (ofMillis 60000) = "60s" := by decide

/-- The span as `{"secs", "nanos"}`. -/
def toJson (d : Span) : Json :=
  Json.record [("secs", Json.nat d.secs), ("nanos", Json.nat d.subsecNanos)]

/-- The span in whole milliseconds, capped at the largest unsigned 64-bit value. -/
def toMillisJson (d : Span) : Json := Json.nat d.millisCapped

end Span

end SlotKeeper
