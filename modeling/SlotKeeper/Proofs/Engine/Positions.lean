import SlotKeeper.Engine.Executor

/-!
# Log positions and the event bound

The store reports a run's position as its number of events written as a signed 32-bit number
(`Memory.sequenceOf`), and the executor compares a position with the event bound `m` read as an
unsigned 64-bit count (`positionCount`). Below `2^31` events both readings are the count; from
`2^31` to `2^32` the position is negative and reads as the count plus `2^64 − 2^32`.

So the bound falls due at the count `threshold m`: at `m` itself up to `2^31`; at `2^31`, where
the position turns negative, for larger bounds; and for bounds within `2^31` of `2^64`, where
even the negative positions read below the bound for a while, at the count whose reading reaches
it. The main statement, `due_iff`: below `2^32` events, a run is due by its count exactly from
`threshold m` on. For every bound but the largest, `2^64 − 1`, the due counts that follow the
threshold before the positions wrap around again are at least two, so a loop that adds at most
two events between its checks cannot step over them (`threshold_succ_lt`).
-/

namespace SlotKeeper.Engine

open Store

/-- The least count of events at which a bound of `m` events falls due. -/
def threshold (m : Nat) : Nat :=
  if m ≤ 2147483648 then m
  else if m ≤ 18446744071562067968 then 2147483648
  else m + 4294967296 - 18446744073709551616

/-- A count below `2^32` reads as itself below `2^31`, and `2^64 − 2^32` higher above. -/
theorem positionCount_sequenceOf {n : Nat} (hn : n < 4294967296) :
    positionCount (Memory.sequenceOf n) =
      if n < 2147483648 then n else n + 18446744069414584320 := by
  unfold positionCount Memory.sequenceOf
  dsimp only
  rw [Nat.mod_eq_of_lt hn]
  split <;> omega

/-- Below `2^32` events, a bound of at most `2^64 − 1` events is due exactly from its
threshold on. -/
theorem due_iff {m n : Nat} (hm : m ≤ 18446744073709551615) (hn : n < 4294967296) :
    m ≤ positionCount (Memory.sequenceOf n) ↔ threshold m ≤ n := by
  rw [positionCount_sequenceOf hn]
  unfold threshold
  -- below `2^31` the reading is the count; above, every bound short of the top is reached
  by_cases hlow : n < 2147483648
  · rw [if_pos hlow]
    split
    · exact Iff.rfl
    · split <;> omega
  · rw [if_neg hlow]
    split
    · omega
    · split <;> omega

theorem threshold_le (m : Nat) : threshold m ≤ m := by
  unfold threshold
  split
  · exact Nat.le_refl m
  · split <;> omega

theorem two_le_threshold {m : Nat} (hm : 2 ≤ m) : 2 ≤ threshold m := by
  unfold threshold
  split
  · exact hm
  · split <;> omega

/-- Short of the largest bound, the count after the threshold still reads as due. -/
theorem threshold_succ_lt {m : Nat} (hm : m ≤ 18446744073709551614) :
    threshold m + 1 < 4294967296 := by
  unfold threshold
  split
  · omega
  · split <;> omega

/-- A run of one event stands at position one. -/
theorem positionCount_one : positionCount (Memory.sequenceOf 1) = 1 := rfl

/-- The first positions read as themselves, so a run due by a bound of two or more holds at
least two events. -/
theorem two_le_of_le_positionCount {m n : Nat} (hm : 2 ≤ m)
    (h : m ≤ positionCount (Memory.sequenceOf n)) : 2 ≤ n := by
  rcases n with _ | _ | n
  · have hzero : positionCount (Memory.sequenceOf 0) = 0 := rfl
    omega
  · rw [positionCount_one] at h
    omega
  · omega

end SlotKeeper.Engine
