import SlotKeeper.Backoff.Policy

/-!
# Retry decisions and the backoff exponent

Before try `n` a policy waits `initial · coefficient ^ (n - 2)`, capped. The exponent is computed
from the 32-bit try number: the retry count `n - 1` is read as a signed 32-bit number and one is
taken off. Up to `2^31` tries the reading is the count itself, so the exponent is exactly
`n - 2` (`delayForAttempt_of_le`). At try `2^31 + 1` the reading is the least signed number and
taking one off overflows, a crash (`delayForAttempt_overflow`); past it the reading wraps to the
negative side and the exponent is `n - 2 - 2^32`, so the wait shrinks as the tries grow
(`delayForAttempt_of_wrapped`).

Both callers can get there: the retry budget of a client is any 32-bit count, and a policy asked
for the wait after try `2^31` with tries left computes the wait before try `2^31 + 1`
(`nextDelay_overflow`).

The main statement, `backoff_exponent_by_attempt`, gives the exponent of every 32-bit
try number from two on. `exponential_backoff_crashes_at_wrap` is the first try at which the
exponent is not `n - 2`.

A retry decision asks for tries left and a fault worth retrying: one flagged retryable whose code,
if any, is not listed as final (`nextDelay_eq`, `shouldRetry_eq_false_of_final`).
-/

namespace SlotKeeper.Backoff

open Workflow

namespace Policy

/-! ### Signed readings of 32-bit words -/

/-- Below `2^31` a word reads as itself. -/
theorem wrapI32_of_lt {n : Nat} (h : n < 2147483648) : wrapI32 n = n := by
  unfold wrapI32
  dsimp only
  rw [Nat.mod_eq_of_lt (by omega), if_pos h]

/-- From `2^31` on a word reads as itself less `2^32`. -/
theorem wrapI32_of_ge {n : Nat} (h1 : 2147483648 ≤ n) (h2 : n < 4294967296) :
    wrapI32 n = (n : Int) - 4294967296 := by
  unfold wrapI32
  dsimp only
  rw [Nat.mod_eq_of_lt h2, if_neg (by omega)]

variable (p : Policy)

/-! ### The exponent of each try -/

/-- Up to `2^31` tries the exponent is exact. -/
theorem delayForAttempt_of_le {attempt : Nat} (h2 : 2 ≤ attempt) (h : attempt ≤ 2147483648) :
    p.delayForAttempt attempt = p.delayAtExponent ((attempt : Int) - 2) := by
  have hread : wrapI32 (attempt - 1) = ((attempt - 1 : Nat) : Int) := wrapI32_of_lt (by omega)
  unfold delayForAttempt
  rw [if_neg (by omega)]
  dsimp only
  rw [hread, if_neg (by omega)]
  congr 1
  omega

/-- Try `2^31 + 1` reads its retry count as the least signed 32-bit number, and taking one off
overflows. -/
theorem delayForAttempt_overflow :
    p.delayForAttempt 2147483649 = .error "attempt to subtract with overflow" := by
  have hread : wrapI32 (2147483649 - 1) = -2147483648 := by
    rw [wrapI32_of_ge (by omega) (by omega)]
    rfl
  unfold delayForAttempt
  rw [if_neg (by omega)]
  dsimp only
  rw [hread, if_pos rfl]

/-- Past try `2^31 + 1` the retry count wraps to the negative side. -/
theorem delayForAttempt_of_wrapped {attempt : Nat} (h1 : 2147483649 < attempt)
    (h2 : attempt ≤ 4294967296) :
    p.delayForAttempt attempt = p.delayAtExponent ((attempt : Int) - 4294967298) := by
  have hread : wrapI32 (attempt - 1) = ((attempt - 1 : Nat) : Int) - 4294967296 :=
    wrapI32_of_ge (by omega) (by omega)
  unfold delayForAttempt
  rw [if_neg (by omega)]
  dsimp only
  rw [hread, if_neg (by omega)]
  congr 1
  omega

/-- The exponent of every 32-bit try number from two on: exactly `n - 2` up to `2^31`, a crash on
the overflow at `2^31 + 1`, and `n - 2 - 2^32`, a negative number, beyond. -/
theorem backoff_exponent_by_attempt (attempt : Nat) (h2 : 2 ≤ attempt)
    (h : attempt < 4294967296) :
    (attempt ≤ 2147483648 ∧ p.delayForAttempt attempt = p.delayAtExponent ((attempt : Int) - 2)) ∨
    (attempt = 2147483649 ∧
      p.delayForAttempt attempt = .error "attempt to subtract with overflow") ∨
    (2147483649 < attempt ∧ (attempt : Int) - 4294967298 < 0 ∧
      p.delayForAttempt attempt = p.delayAtExponent ((attempt : Int) - 4294967298)) := by
  rcases Nat.lt_or_ge 2147483648 attempt with hbig | hsmall
  · rcases Nat.lt_or_ge 2147483649 attempt with hwrapped | hat
    · exact .inr (.inr ⟨hwrapped, by omega, p.delayForAttempt_of_wrapped hwrapped (by omega)⟩)
    · have hat : attempt = 2147483649 := by omega
      subst hat
      exact .inr (.inl ⟨rfl, p.delayForAttempt_overflow⟩)
  · exact .inl ⟨hsmall, p.delayForAttempt_of_le h2 hsmall⟩

/-- The third try of the default policy waits the initial wait times the coefficient once. -/
theorem exponential_third_try_exponent :
    2 ≤ 3 ∧ 3 < 4294967296 ∧
      ((3 ≤ 2147483648 ∧ exponential.delayForAttempt 3 = exponential.delayAtExponent ((3 : Int) - 2)) ∨
      (3 = 2147483649 ∧
        exponential.delayForAttempt 3 = .error "attempt to subtract with overflow") ∨
      (2147483649 < 3 ∧ (3 : Int) - 4294967298 < 0 ∧
        exponential.delayForAttempt 3 = exponential.delayAtExponent ((3 : Int) - 4294967298))) :=
  ⟨by decide, by decide, exponential.backoff_exponent_by_attempt 3 (by decide) (by decide)⟩

/-- The default exponential policy crashes computing the wait before try `2^31 + 1`, where the
exponent `2^31 - 1` would have fitted. -/
theorem exponential_backoff_crashes_at_wrap :
    exponential.delayForAttempt 2147483649 = .error "attempt to subtract with overflow" :=
  exponential.delayForAttempt_overflow

/-! ### Retry decisions -/

/-- A retry needs tries left and a fault worth retrying; its wait is the one before the next try. -/
theorem nextDelay_eq (attempt : Nat) (f : Fault) :
    p.nextDelay attempt f =
      if attempt < p.maxAttempts ∧ p.shouldRetry f = true then
        (p.delayForAttempt (attempt + 1)).map some
      else .ok none := by
  unfold nextDelay hasAttemptsRemaining
  by_cases hgo : attempt < p.maxAttempts ∧ p.shouldRetry f = true
  · rw [if_pos (by simp [hgo.1, hgo.2]), if_pos hgo]
  · rw [if_neg (by simpa using hgo), if_neg hgo]

/-- A fault not flagged retryable is never retried. -/
theorem shouldRetry_eq_false_of_final {f : Fault} (h : f.retryable = false) :
    p.shouldRetry f = false := by
  simp [shouldRetry, h]

/-- A retryable fault without a code is always worth retrying. -/
theorem shouldRetry_of_codeless {f : Fault} (h : f.retryable = true) (hc : f.code = none) :
    p.shouldRetry f = true := by
  simp [shouldRetry, h, hc]

/-- With tries left after try `2^31`, a retry asks for the wait before try `2^31 + 1` and crashes. -/
theorem nextDelay_overflow {f : Fault} (hmax : 2147483648 < p.maxAttempts)
    (hf : p.shouldRetry f = true) :
    p.nextDelay 2147483648 f = .error "attempt to subtract with overflow" := by
  rw [nextDelay_eq, if_pos ⟨hmax, hf⟩, p.delayForAttempt_overflow]
  rfl

end Policy

end SlotKeeper.Backoff
