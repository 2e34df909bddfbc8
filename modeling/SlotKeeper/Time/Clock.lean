import SlotKeeper.Time.Instant

/-!
# A hand-driven clock

A `ManualClock` reads a stored instant that only moves when it is told to: `advance` moves it
forward by a span (a span beyond the largest signed time difference counts as that difference, and
a sum whose date is past the last representable one stops at `Instant.max`), and `set` moves it
to a later instant and ignores earlier ones. `set` never moves the clock backwards; `advance`
does only from a leap second on the last representable day, the one place above `Instant.max`.

A sleeper waiting for a deadline wakes once the clock reads at least the deadline; a sleep whose
deadline cannot be represented never ends.
-/

namespace SlotKeeper

/-- A clock that moves only when told to. -/
structure ManualClock where
  now : Instant
  deriving DecidableEq, Repr, Inhabited

namespace ManualClock

/-- Moves the clock forward by `d`, saturating at `Instant.max`: a span beyond the largest signed
time difference counts as that difference, and a sum whose date is not representable gives
`Instant.max`. -/
def advance (c : ManualClock) (d : Span) : ManualClock :=
  let delta : Span := if d.nanos ≤ Instant.maxDelta.nanos then d else Instant.maxDelta
  let t := c.now.plus delta
  ⟨if t.inRange then t else Instant.max⟩

/-- Moves the clock to `t` when `t` is later; earlier instants are ignored. -/
def set (c : ManualClock) (t : Instant) : ManualClock :=
  if c.now < t then ⟨t⟩ else c

/-- Whether a sleeper with this deadline has woken: never for an unrepresentable deadline. -/
def reached (c : ManualClock) (deadline : Option Instant) : Bool :=
  match deadline with
  | some t => decide (t ≤ c.now)
  | none => false

theorem set_monotone (c : ManualClock) (t : Instant) : c.now ≤ (c.set t).now := by
  simp only [set]
  split
  · rcases (show c.now < t by assumption) with h | ⟨h1, h2⟩
    · exact Or.inl h
    · exact Or.inr ⟨h1, Nat.le_of_lt h2⟩
  · exact Or.inr ⟨rfl, Nat.le_refl _⟩

/-- Advancing moves the clock forward, unless the sum is past the last representable instant,
where it stops at `Instant.max`. -/
theorem advance_forward_or_max (c : ManualClock) (d : Span) :
    c.now ≤ (c.advance d).now ∨ (c.advance d).now = Instant.max := by
  unfold advance
  dsimp only
  generalize (if d.nanos ≤ Instant.maxDelta.nanos then d else Instant.maxDelta) = delta
  by_cases h : (c.now.plus delta).inRange = true
  · rw [if_pos h]
    exact Or.inl (Instant.le_plus _ _)
  · rw [if_neg h]
    exact Or.inr rfl

end ManualClock

end SlotKeeper
