import SlotKeeper.Time.Span

/-!
# Instants

An `Instant` is a point on the UTC time line: a count of whole seconds from
1970-01-01T00:00:00Z and the nanoseconds into that second. A leap second is not a second of its
own: it is the second before it, `hh:mm:59`, with a fraction of `10^9` or more. So
`23:59:60.5` is second `23:59:59` with fraction `1.5·10^9`, and instants are ordered by second,
then by fraction. The representable dates run from `-262143-01-01` to `+262142-12-31`; the last
instant outside a leap second is `+262142-12-31T23:59:59.999999999Z` (`Instant.max`).

Calendar dates use the proleptic Gregorian calendar; `daysFromCivil` and `civilFromDays` are the
usual era-based conversions (an era is 400 years, 146097 days).

Arithmetic treats the leap second as a stretch of the second before it:

* `plus` adds a span. Inside a leap second, a sum that stays below two seconds of fraction stays
  in the leap second; any other sum first leaves it, so that adding one second to `23:59:60.5`
  gives `00:00:00.5` of the next day.
* `since` is the signed difference in nanoseconds. Within a day, a leap second on the earlier
  side of a later second counts as one more second; the days between two instants count
  86400 seconds each.

`Instant.render` writes RFC 3339 in UTC with a `Z`: a four-digit year within 0..9999, otherwise a
sign and at least four digits; a leap second is written as second 60; the fraction is omitted
when zero, else written with 3, 6 or 9 digits, the fewest that are exact.
-/

namespace SlotKeeper

/-- A point in time: seconds since the Unix epoch and nanoseconds into that second. -/
structure Instant where
  /-- Whole seconds since 1970-01-01T00:00:00Z; a leap second shares the count of the second
  before it. -/
  secs : Int
  /-- Nanoseconds into the second: below `10^9`, or below `2·10^9` during a leap second. -/
  frac : Nat
  deriving DecidableEq, Repr, Inhabited

namespace Instant

/-- Nanoseconds in a second. -/
def nanosPerSecond : Nat := 1000000000

/-- Seconds in a day. -/
def secondsPerDay : Int := 86400

/-- Days from 1970-01-01 to a civil date. -/
def daysFromCivil (year : Int) (month day : Nat) : Int :=
  let y : Int := if month ≤ 2 then year - 1 else year
  let era := y / 400
  let yoe := y - era * 400
  let mp : Int := if month > 2 then (month : Int) - 3 else (month : Int) + 9
  let doy := (153 * mp + 2) / 5 + (day : Int) - 1
  let doe := yoe * 365 + yoe / 4 - yoe / 100 + doy
  era * 146097 + doe - 719468

/-- The civil date (year, month, day) of a day count from 1970-01-01. -/
def civilFromDays (days : Int) : Int × Nat × Nat :=
  let z := days + 719468
  let era := z / 146097
  let doe := z - era * 146097
  let yoe := (doe - doe / 1460 + doe / 36524 - doe / 146096) / 365
  let doy := doe - (365 * yoe + yoe / 4 - yoe / 100)
  let mp := (5 * doy + 2) / 153
  let day := doy - (153 * mp + 2) / 5 + 1
  let month := if mp < 10 then mp + 3 else mp - 9
  let year := yoe + era * 400 + (if month ≤ 2 then 1 else 0)
  (year, month.toNat, day.toNat)

/-- Whether a year is a leap year. -/
def leapYear (y : Int) : Bool := (y % 4 = 0 && y % 100 ≠ 0) || y % 400 = 0

/-- Days in a month of a year. -/
def monthLength (y : Int) (m : Nat) : Nat :=
  if m = 2 then (if leapYear y then 29 else 28)
  else if m = 4 ∨ m = 6 ∨ m = 9 ∨ m = 11 then 30 else 31

/-- The day of an instant, counted from 1970-01-01. -/
def day (t : Instant) : Int := t.secs / secondsPerDay

/-- The second of the day of an instant, from 0 to 86399. -/
def secondOfDay (t : Instant) : Int := t.secs % secondsPerDay

/-- Whether an instant lies inside a leap second. -/
def inLeapSecond (t : Instant) : Bool := decide (nanosPerSecond ≤ t.frac)

/-- The first representable instant, `-262143-01-01T00:00:00Z`. -/
def min : Instant := ⟨daysFromCivil (-262143) 1 1 * secondsPerDay, 0⟩

/-- The last instant outside a leap second, `+262142-12-31T23:59:59.999999999Z`. -/
def max : Instant := ⟨daysFromCivil 262142 12 31 * secondsPerDay + 86399, 999999999⟩

/-- Whether the date of an instant is representable. -/
def inRange (t : Instant) : Bool := decide (min.secs ≤ t.secs) && decide (t.secs ≤ max.secs)

instance : LE Instant := ⟨fun a b => a.secs < b.secs ∨ (a.secs = b.secs ∧ a.frac ≤ b.frac)⟩
instance : LT Instant := ⟨fun a b => a.secs < b.secs ∨ (a.secs = b.secs ∧ a.frac < b.frac)⟩
instance (a b : Instant) : Decidable (a ≤ b) :=
  inferInstanceAs (Decidable (a.secs < b.secs ∨ (a.secs = b.secs ∧ a.frac ≤ b.frac)))
instance (a b : Instant) : Decidable (a < b) :=
  inferInstanceAs (Decidable (a.secs < b.secs ∨ (a.secs = b.secs ∧ a.frac < b.frac)))

/-- The instant of a civil date and time of day in UTC; `nano` may reach into a leap second. -/
def ofCivil (year : Int) (month day hour minute second nano : Nat) : Instant :=
  ⟨daysFromCivil year month day * secondsPerDay + ((hour * 60 + minute) * 60 + second : Nat), nano⟩

/-- The instant of a whole count of nanoseconds since the epoch, outside any leap second. -/
def ofNanos (n : Int) : Instant :=
  ⟨n / nanosPerSecond, (n % nanosPerSecond).toNat⟩

/-- `n` written with at least `width` digits. -/
def padded (width n : Nat) : String :=
  let s := toString n
  String.ofList (List.replicate (width - s.length) '0') ++ s

/-- The year as RFC 3339 writes it: four digits, or a sign and at least four digits. -/
def yearText (y : Int) : String :=
  if 0 ≤ y ∧ y ≤ 9999 then padded 4 y.toNat
  else (if y < 0 then "-" else "+") ++ padded 4 y.natAbs

/-- The seconds fraction: none, or the fewest of 3, 6, 9 digits that are exact. -/
def fractionText (nano : Nat) : String :=
  if nano = 0 then ""
  else if nano % 1000000 = 0 then "." ++ padded 3 (nano / 1000000)
  else if nano % 1000 = 0 then "." ++ padded 6 (nano / 1000)
  else "." ++ padded 9 nano

/-- RFC 3339 text in UTC; a leap second is second 60. -/
def render (t : Instant) : String :=
  let (y, m, d) := civilFromDays t.day
  let sod := t.secondOfDay.toNat
  let (second, nano) :=
    if t.inLeapSecond then (sod % 60 + 1, t.frac - nanosPerSecond) else (sod % 60, t.frac)
  yearText y ++ "-" ++ padded 2 m ++ "-" ++ padded 2 d ++ "T" ++
    padded 2 (sod / 3600) ++ ":" ++ padded 2 (sod / 60 % 60) ++ ":" ++
    padded 2 second ++ fractionText nano ++ "Z"

example : render ⟨0, 0⟩ = "1970-01-01T00:00:00Z" := by decide

/-- The instant as a JSON string. -/
def toJson (t : Instant) : Json := .string t.render

/-- `t + d`, whatever the date it reaches. Inside a leap second, a sum whose fraction stays below
two seconds stays there; otherwise the leap second is left first. -/
def plus (t : Instant) (d : Span) : Instant :=
  let whole : Int := d.secs
  let part := d.subsecNanos
  if t.inLeapSecond && whole = 0 && t.frac + part < 2 * nanosPerSecond then ⟨t.secs, t.frac + part⟩
  else
    let frac := if t.inLeapSecond then t.frac - nanosPerSecond else t.frac
    let total := frac + part
    ⟨t.secs + whole + (total / nanosPerSecond : Nat), total % nanosPerSecond⟩

/-- `a - b` in nanoseconds: whole days apart count 86400 seconds each, and within a day a leap
second on the earlier side of a later second adds one second. -/
def since (a b : Instant) : Int :=
  let sa := a.secondOfDay
  let sb := b.secondOfDay
  let s := sa - sb
  let s :=
    if sb < sa ∧ b.inLeapSecond then s + 1
    else if sa < sb ∧ a.inLeapSecond then s - 1
    else s
  ((a.day - b.day) * secondsPerDay + s) * nanosPerSecond + ((a.frac : Int) - b.frac)

/-- 2000-01-01T00:00:00Z, the origin SQL timestamps count microseconds from. -/
def sqlEpoch : Instant := ⟨946684800, 0⟩

/-- The instant as whole microseconds from `sqlEpoch`, the fraction cut towards that origin,
read back as an instant. -/
def truncateMicros (t : Instant) : Instant :=
  let micros := Int.tdiv (t.since sqlEpoch) 1000
  ofNanos (sqlEpoch.secs * nanosPerSecond + micros * 1000)

/-- `now - earlier` as a span, or zero when `earlier` is later. -/
def elapsedSince (now earlier : Instant) : Span :=
  ⟨(now.since earlier).toNat⟩

/-- The longest span a signed time difference holds: `2^63 - 1` milliseconds. -/
def maxDelta : Span := ⟨9223372036854775807 * 1000000⟩

/-- `now + d`, when `d` fits a signed time difference and the sum has a representable date. -/
def deadlineAfter (now : Instant) (d : Span) : Option Instant :=
  if d.nanos ≤ maxDelta.nanos then
    let t := now.plus d
    if t.inRange then some t else none
  else none

/-- Adding a span never moves an instant backwards, leap second or not. -/
theorem le_plus (t : Instant) (d : Span) : t ≤ t.plus d := by
  unfold plus
  by_cases hc : (t.inLeapSecond && decide ((d.secs : Int) = 0) &&
      decide (t.frac + d.subsecNanos < 2 * nanosPerSecond)) = true
  · rw [if_pos hc]
    exact Or.inr ⟨rfl, Nat.le_add_right _ _⟩
  · rw [if_neg hc]
    show t.secs < _ ∨ (t.secs = _ ∧ t.frac ≤ _)
    by_cases hl : t.inLeapSecond = true
    · rw [if_pos hl]
      simp only [hl, Bool.true_and, Bool.and_eq_true, decide_eq_true_eq] at hc
      simp only [inLeapSecond, decide_eq_true_eq] at hl
      dsimp only
      simp only [nanosPerSecond] at hc hl ⊢
      omega
    · rw [if_neg hl]
      simp only [inLeapSecond, decide_eq_true_eq] at hl
      dsimp only
      simp only [nanosPerSecond] at hl ⊢
      omega

end Instant

end SlotKeeper
