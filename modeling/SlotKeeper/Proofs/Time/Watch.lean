import SlotKeeper.Time.Watch
import SlotKeeper.Proofs.Time.Elapsed

/-!
# A manual clock keeps time

A manual clock made at some instant and then advanced and set any number of times
(`ManualClock.Shared.Reaches`) keeps its two copies of the reading equal: the watch channel
holds the reading behind the lock after every call. So a sleeper wakes exactly when the reading
has reached its deadline, and a sleeper with no deadline never wakes.

Setting moves the clock to the later of its reading and the instant. Advancing, from a reading
at most `Instant.max`, moves it to the sum or to `Instant.max`, whichever is earlier: a span
beyond the largest signed time difference, or a sum with no representable date, stops at the
last instant. So the reading never falls back while it stays at most `Instant.max`.

The main statement is `manual_clock_saturates_and_wakes_on_time`. The leap second that ends the
last representable day lies above `Instant.max`; a clock reading inside it does not keep the last
rule (`advance_falls_back_from_last_leap_second`).
-/

namespace SlotKeeper

namespace ManualClock

/-- Setting moves the clock to the later of its reading and the instant. -/
theorem set_now_later (c : ManualClock) (t : Instant) :
    c.now ≤ (c.set t).now ∧ t ≤ (c.set t).now ∧ ((c.set t).now = c.now ∨ (c.set t).now = t) := by
  unfold set
  by_cases h : c.now < t
  · rw [if_pos h]
    exact ⟨Instant.le_of_lt h, Instant.le_refl t, .inr rfl⟩
  · rw [if_neg h]
    exact ⟨Instant.le_refl _, Instant.le_of_not_lt h, .inl rfl⟩

/-- From a representable reading at most `Instant.max`, advancing gives the earlier of the sum and
`Instant.max`. -/
theorem advance_now_min {c : ManualClock} (hc : c.now.inRange = true)
    (hmax : c.now ≤ Instant.max) (d : Span) :
    (c.advance d).now = if c.now.plus d ≤ Instant.max then c.now.plus d else Instant.max := by
  unfold advance
  dsimp only
  by_cases hd : d.nanos ≤ Instant.maxDelta.nanos
  · rw [if_pos hd]
    have hrange := Instant.inRange_plus_iff hc hmax d
    by_cases hr : c.now.plus d ≤ Instant.max
    · rw [if_pos (hrange.2 hr), if_pos hr]
    · rw [if_neg (mt hrange.1 hr), if_neg hr]
  · rw [if_neg hd]
    -- the largest signed difference already carries the reading past the last second, and a
    -- longer span carries it further
    have hcapped := Instant.max_secs_lt_plus hc (Nat.le_refl Instant.maxDelta.nanos)
    have hlong := Instant.max_secs_lt_plus hc (Nat.le_of_not_le hd)
    have hout : (c.now.plus Instant.maxDelta).inRange = false := by
      simp only [Instant.inRange, Bool.and_eq_false_iff, decide_eq_false_iff_not]
      exact .inr (Int.not_le.2 hcapped)
    have hpast : ¬ c.now.plus d ≤ Instant.max := by
      rw [Instant.le_iff]
      omega
    rw [if_neg (by rw [hout]; decide), if_neg hpast]

/-- From a representable reading at most `Instant.max`, advancing never moves the clock back. -/
theorem le_advance {c : ManualClock} (hc : c.now.inRange = true) (hmax : c.now ≤ Instant.max)
    (d : Span) : c.now ≤ (c.advance d).now := by
  rw [advance_now_min hc hmax d]
  split
  · exact Instant.le_plus c.now d
  · exact hmax

namespace Shared

theorem now_advance (s : Shared) (d : Span) : (s.advance d).now = (s.clock.advance d).now := rfl

theorem now_set (s : Shared) (t : Instant) : (s.set t).now = (s.clock.set t).now := by
  unfold set ManualClock.set clock
  split <;> rfl

/-- Reading the channel is reading the clock while the two agree: a sleeper wakes exactly when
the reading has reached its deadline, and never without one. -/
theorem wakes_iff {s : Shared} (h : s.tick = s.now) (deadline : Option Instant) :
    s.wakes deadline = true ↔ ∃ t, deadline = some t ∧ t ≤ s.now := by
  cases deadline with
  | none => simp [wakes]
  | some t => simp [wakes, h]

/-- The states of a manual clock made at `start` and then advanced and set. -/
inductive Reaches (start : Instant) : Shared → Prop
  | start : Reaches start (startingAt start)
  | advance {s : Shared} (d : Span) : Reaches start s → Reaches start (s.advance d)
  | set {s : Shared} (t : Instant) : Reaches start s → Reaches start (s.set t)

/-- Along every run the channel holds the reading behind the lock: advancing sends what it
stores, and setting sends exactly when it stores. -/
theorem Reaches.synced {start : Instant} {s : Shared} (h : Reaches start s) : s.tick = s.now := by
  induction h with
  | start => rfl
  | advance d _ _ => rfl
  | set t _ ih =>
    unfold Shared.set
    split
    · rfl
    · exact ih

/-- A manual clock keeps time. Along every run from any start, the watch channel holds the reading
behind the lock, so a sleeper wakes exactly when the reading has reached its deadline and one with
no deadline never wakes. Setting moves the clock to the later of its reading and the instant.
From a representable reading at most `Instant.max`, advancing moves it to the earlier of the sum
and `Instant.max`, and so never back. -/
theorem manual_clock_saturates_and_wakes_on_time {start : Instant} {s : Shared}
    (hs : Reaches start s) :
    s.tick = s.now ∧
      (∀ deadline, s.wakes deadline = true ↔ ∃ t, deadline = some t ∧ t ≤ s.now) ∧
      (∀ t, s.now ≤ (s.set t).now ∧ t ≤ (s.set t).now ∧
        ((s.set t).now = s.now ∨ (s.set t).now = t)) ∧
      (s.now.inRange = true → s.now ≤ Instant.max → ∀ d,
        (s.advance d).now = (if s.now.plus d ≤ Instant.max then s.now.plus d else Instant.max) ∧
          s.now ≤ (s.advance d).now) := by
  have hsync := hs.synced
  refine ⟨hsync, wakes_iff hsync, fun t ↦ ?_, fun hc hmax d ↦ ?_⟩
  · rw [now_set]
    exact s.clock.set_now_later t
  · rw [now_advance]
    exact ⟨advance_now_min (c := s.clock) hc hmax d, le_advance (c := s.clock) hc hmax d⟩

/-- A clock made at noon on the first of March 2026, advanced by half a minute and set back to
eleven. -/
def noonRun : Shared :=
  ((startingAt ⟨1772366400, 0⟩).advance (Span.ofSeconds 30)).set ⟨1772362800, 0⟩

theorem noon_clock_run_keeps_time :
    Reaches ⟨1772366400, 0⟩ noonRun ∧ noonRun.tick = noonRun.now ∧
      (∀ deadline, noonRun.wakes deadline = true ↔ ∃ t, deadline = some t ∧ t ≤ noonRun.now) ∧
      (∀ t, noonRun.now ≤ (noonRun.set t).now ∧ t ≤ (noonRun.set t).now ∧
        ((noonRun.set t).now = noonRun.now ∨ (noonRun.set t).now = t)) ∧
      noonRun.now.inRange = true ∧ noonRun.now ≤ Instant.max ∧ ∀ d,
        (noonRun.advance d).now =
          (if noonRun.now.plus d ≤ Instant.max then noonRun.now.plus d else Instant.max) ∧
          noonRun.now ≤ (noonRun.advance d).now := by
  have hrun : Reaches ⟨1772366400, 0⟩ noonRun := .set _ (.advance _ .start)
  have hrange : noonRun.now.inRange = true := by decide
  have hmax : noonRun.now ≤ Instant.max := by decide
  obtain ⟨hsync, hwakes, hset, hadvance⟩ := manual_clock_saturates_and_wakes_on_time hrun
  exact ⟨hrun, hsync, hwakes, hset, hrange, hmax, hadvance hrange hmax⟩

/-- Above `Instant.max` the clock keeps neither rule of advancing. Made half a second into the
leap second that ends the last representable day, a clock advanced by a tenth of a second stays
inside that leap second, above `Instant.max`; advanced by six tenths, the sum has no representable
date and the clock falls back to `Instant.max`, half a second before it started. -/
theorem advance_falls_back_from_last_leap_second :
    let s := startingAt ⟨Instant.max.secs, 1500000000⟩
    Instant.max < (s.advance (Span.ofMillis 100)).now ∧
      (s.advance (Span.ofMillis 600)).now = Instant.max ∧ Instant.max < s.now := by
  decide

end Shared

end ManualClock

end SlotKeeper
