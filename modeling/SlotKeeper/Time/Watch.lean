import SlotKeeper.Time.Clock

/-!
# A manual clock and its watch channel

The handles of a manual clock share two copies of its reading: the instant behind its lock, which
`now` reads, and the last instant sent on its watch channel, which sleepers read. `advance` moves
the reading behind the lock as `ManualClock.advance` does and sends the result; `set` moves it to
a later instant and only then sends it. A sleeper wakes once the channel holds an instant at or
after its deadline; a sleep whose deadline cannot be represented waits forever.
-/

namespace SlotKeeper

namespace ManualClock

/-- What the handles of a manual clock share: the reading behind the lock and the last reading
sent on the watch channel. -/
structure Shared where
  now : Instant
  tick : Instant
  deriving DecidableEq, Repr

namespace Shared

/-- A clock made at `start`: the lock and the channel both hold it. -/
def startingAt (start : Instant) : Shared := ⟨start, start⟩

/-- The reading behind the lock, as a clock. -/
def clock (s : Shared) : ManualClock := ⟨s.now⟩

/-- Advances the reading behind the lock and sends the new reading. -/
def advance (s : Shared) (d : Span) : Shared :=
  let now := (s.clock.advance d).now
  ⟨now, now⟩

/-- Moves the reading to `t` and sends it when `t` is later; an earlier `t` changes nothing. -/
def set (s : Shared) (t : Instant) : Shared :=
  if s.now < t then ⟨t, t⟩ else s

/-- The deadline a sleep of `d` takes from the reading behind the lock; none when it cannot be
represented. -/
def sleepDeadline (s : Shared) (d : Span) : Option Instant := s.now.deadlineAfter d

/-- Whether a sleeper with this deadline wakes: it compares the channel's reading with the
deadline, and a sleeper with no deadline never wakes. -/
def wakes (s : Shared) (deadline : Option Instant) : Bool :=
  match deadline with
  | some t => decide (t ≤ s.tick)
  | none => false

end Shared

end ManualClock

end SlotKeeper
