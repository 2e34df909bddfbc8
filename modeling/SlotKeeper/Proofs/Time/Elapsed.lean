import SlotKeeper.Proofs.Engine.Pacing
import SlotKeeper.Proofs.Pool.Reclaim
import SlotKeeper.Proofs.Pool.Draining

/-!
# Exact and monotone time arithmetic

Two helpers carry every timeout of the pool: `Instant.elapsedSince`, the time from an earlier
instant to a later one (zero when the first is earlier), and `Instant.deadlineAfter`, the instant a
span after another (none when the span does not fit a signed time difference or the sum has no
representable date).

Outside leap seconds both are exact. The time elapsed is the difference to the nanosecond when
the instants are in order and zero otherwise; a deadline is the sum exactly when the span fits and
the sum is at most `Instant.max`, and the time from an instant to its deadline is the span again.
The time elapsed grows with the later instant and shrinks with the earlier one, so a request that
has waited its whole timeout stays timed out, and a lease unheard for longer than the lease
timeout stays silent, as the clock runs on.

The main statement is `clock_arithmetic_exact_and_monotone`. A leap second breaks the order: the
arithmetic counts an instant inside one as a fraction past the second before it, so the time
elapsed falls back by up to a second when the clock leaves it, and a timed-out request can be
waiting again a moment later (`request_timeout_lapses_leaving_leap_second`).
-/

namespace SlotKeeper

namespace Instant

theorem le_iff {a b : Instant} :
    a ≤ b ↔ a.secs < b.secs ∨ (a.secs = b.secs ∧ a.frac ≤ b.frac) :=
  Iff.rfl

theorem lt_iff {a b : Instant} :
    a < b ↔ a.secs < b.secs ∨ (a.secs = b.secs ∧ a.frac < b.frac) :=
  Iff.rfl

theorem le_of_lt {a b : Instant} (h : a < b) : a ≤ b := by
  rw [lt_iff] at h
  rw [le_iff]
  omega

theorem le_of_not_lt {a b : Instant} (h : ¬ a < b) : b ≤ a := by
  rw [lt_iff] at h
  rw [le_iff]
  omega

/-! ### Elapsed time -/

/-- Outside leap seconds, the signed difference is non-negative exactly when the instants are in
order. -/
theorem since_nonneg_iff {a b : Instant} (ha : a.Leapless) (hb : b.Leapless) :
    0 ≤ a.since b ↔ b ≤ a := by
  rw [since_of_leapless ha hb, le_iff]
  have := frac_lt_of_leapless ha
  have := frac_lt_of_leapless hb
  omega

/-- Outside leap seconds, the time elapsed since an earlier instant is the difference to the
nanosecond. -/
theorem elapsedSince_of_le {a b : Instant} (ha : a.Leapless) (hb : b.Leapless) (h : b ≤ a) :
    ((a.elapsedSince b).nanos : Int) =
      (a.secs - b.secs) * 1000000000 + ((a.frac : Int) - b.frac) := by
  show ((a.since b).toNat : Int) = _
  rw [Int.toNat_of_nonneg ((since_nonneg_iff ha hb).2 h), since_of_leapless ha hb]

/-- Outside leap seconds, no time has elapsed since a later instant. -/
theorem elapsedSince_of_lt {a b : Instant} (ha : a.Leapless) (hb : b.Leapless) (h : a < b) :
    a.elapsedSince b = Span.zero := by
  have hnot : ¬ b ≤ a := by
    rw [le_iff]
    rw [lt_iff] at h
    omega
  have hneg : a.since b ≤ 0 := by
    have := mt (since_nonneg_iff ha hb).1 hnot
    omega
  show (⟨(a.since b).toNat⟩ : Span) = ⟨0⟩
  rw [Int.toNat_of_nonpos hneg]

/-- Outside leap seconds, the time elapsed since an instant shrinks as that instant moves later. -/
theorem elapsedSince_anti {a b b' : Instant} (ha : a.Leapless) (hb : b.Leapless)
    (hb' : b'.Leapless) (h : b ≤ b') : a.elapsedSince b' ≤ a.elapsedSince b := by
  show (a.since b').toNat ≤ (a.since b).toNat
  rw [since_of_leapless ha hb', since_of_leapless ha hb]
  rw [le_iff] at h
  have := frac_lt_of_leapless hb
  have := frac_lt_of_leapless hb'
  omega

/-! ### Deadlines -/

/-- A sum leaves every leap second, or stays inside the one its instant is in. -/
theorem plus_leapless_or_stays (t : Instant) (d : Span) :
    (t.plus d).Leapless ∨ ((t.plus d).secs = t.secs ∧ t.inLeapSecond = true) := by
  unfold plus
  by_cases hc : (t.inLeapSecond && decide ((d.secs : Int) = 0) &&
      decide (t.frac + d.subsecNanos < 2 * nanosPerSecond)) = true
  · rw [if_pos hc]
    simp only [Bool.and_eq_true] at hc
    exact .inr ⟨rfl, hc.1.1⟩
  · rw [if_neg hc]
    left
    show decide (nanosPerSecond ≤ _ % nanosPerSecond) = false
    simp only [decide_eq_false_iff_not, Nat.not_le]
    exact Nat.mod_lt _ (by decide)

/-- Adding a span moves an instant on by at least the span's whole seconds. -/
theorem secs_add_le_plus (t : Instant) (d : Span) : t.secs + (d.secs : Int) ≤ (t.plus d).secs := by
  unfold plus
  by_cases hc : (t.inLeapSecond && decide ((d.secs : Int) = 0) &&
      decide (t.frac + d.subsecNanos < 2 * nanosPerSecond)) = true
  · rw [if_pos hc]
    -- a sum that stays inside the leap second adds no whole second
    simp only [Bool.and_eq_true, decide_eq_true_eq] at hc
    dsimp only
    omega
  · rw [if_neg hc]
    dsimp only
    exact Int.le_add_of_nonneg_right (Int.natCast_nonneg _)

theorem min_secs_le_of_inRange {a : Instant} (ha : a.inRange = true) :
    Instant.min.secs ≤ a.secs := by
  simp only [inRange, Bool.and_eq_true, decide_eq_true_eq] at ha
  exact ha.1

/-- A span at least the largest signed time difference carries an instant with a representable
date past the last representable second. -/
theorem max_secs_lt_plus {a : Instant} (ha : a.inRange = true) {d : Span}
    (hd : maxDelta.nanos ≤ d.nanos) : Instant.max.secs < (a.plus d).secs := by
  have hsecs : maxDelta.secs ≤ d.secs := Nat.div_le_div_right hd
  calc Instant.max.secs < Instant.min.secs + (maxDelta.secs : Int) := by decide
    _ ≤ a.secs + (d.secs : Int) := by
      have := min_secs_le_of_inRange ha
      omega
    _ ≤ (a.plus d).secs := secs_add_le_plus a d

/-- An instant outside leap seconds is at most `Instant.max` exactly when its second is. -/
theorem le_max_iff_of_leapless {u : Instant} (hu : u.Leapless) :
    u ≤ Instant.max ↔ u.secs ≤ Instant.max.secs := by
  have := frac_lt_of_leapless hu
  have hmax : Instant.max.frac = 999999999 := rfl
  rw [le_iff]
  omega

/-- From an instant with a representable date at most `Instant.max`, a sum has a representable
date exactly when it is at most `Instant.max`. -/
theorem inRange_plus_iff {a : Instant} (ha : a.inRange = true) (hmax : a ≤ Instant.max)
    (d : Span) : (a.plus d).inRange = true ↔ a.plus d ≤ Instant.max := by
  have hlow : Instant.min.secs ≤ (a.plus d).secs := by
    have := min_secs_le_of_inRange ha
    have := le_iff.1 (le_plus a d)
    omega
  have hrange : (a.plus d).inRange = true ↔ (a.plus d).secs ≤ Instant.max.secs := by
    simp only [inRange, Bool.and_eq_true, decide_eq_true_eq]
    exact ⟨And.right, fun h ↦ ⟨hlow, h⟩⟩
  rw [hrange]
  rcases plus_leapless_or_stays a d with hl | ⟨hsecs, hleap⟩
  · exact (le_max_iff_of_leapless hl).symm
  · -- an instant inside a leap second comes after its whole second, so at most `Instant.max` it
    -- lies before the last second, and so does a sum that stays with it
    have hfrac : 1000000000 ≤ a.frac := of_decide_eq_true hleap
    have hmaxfrac : Instant.max.frac = 999999999 := rfl
    rw [le_iff] at hmax
    rw [le_iff, hsecs]
    omega

/-- A deadline is the sum, for a span that fits a signed time difference and a sum with a
representable date. -/
theorem deadlineAfter_eq_some {a t : Instant} {d : Span} (h : a.deadlineAfter d = some t) :
    t = a.plus d ∧ d ≤ maxDelta ∧ (a.plus d).inRange = true := by
  unfold deadlineAfter at h
  by_cases hd : d.nanos ≤ maxDelta.nanos
  · rw [if_pos hd] at h
    dsimp only at h
    by_cases hr : (a.plus d).inRange = true
    · rw [if_pos hr] at h
      exact ⟨(Option.some.inj h).symm, hd, hr⟩
    · rw [if_neg hr] at h
      cases h
  · rw [if_neg hd] at h
    cases h

/-- From an instant with a representable date at most `Instant.max`, the deadline a span later is
the sum exactly when the span fits a signed time difference and the sum is at most
`Instant.max`. -/
theorem deadlineAfter_eq_some_iff {a : Instant} (ha : a.inRange = true) (hmax : a ≤ Instant.max)
    (d : Span) (t : Instant) :
    a.deadlineAfter d = some t ↔ t = a.plus d ∧ d ≤ maxDelta ∧ a.plus d ≤ Instant.max := by
  rw [← inRange_plus_iff ha hmax d]
  constructor
  · exact deadlineAfter_eq_some
  · rintro ⟨rfl, hd, hr⟩
    unfold deadlineAfter
    have hd' : d.nanos ≤ maxDelta.nanos := hd
    rw [if_pos hd']
    dsimp only
    rw [if_pos hr]

/-- Outside a leap second, the time from an instant to its deadline is the span. -/
theorem elapsedSince_deadlineAfter {a t : Instant} {d : Span} (ha : a.Leapless)
    (h : a.deadlineAfter d = some t) : t.elapsedSince a = d := by
  obtain ⟨rfl, -, -⟩ := deadlineAfter_eq_some h
  show (⟨((a.plus d).since a).toNat⟩ : Span) = d
  rw [since_plus ha d]
  rfl

end Instant

namespace Pool

/-- Outside leap seconds, a request that has waited its whole timeout by `t` has by every later
instant too. -/
theorem Request.timedOut_mono {r : Request} {t t' : Instant} (hs : r.sentAt.Leapless)
    (ht : t.Leapless) (ht' : t'.Leapless) (h : t ≤ t') (hout : r.timedOut t = true) :
    r.timedOut t' = true := by
  rw [timedOut_iff] at hout ⊢
  exact Nat.le_trans hout (Instant.elapsedSince_mono ht ht' hs h)

/-- Outside leap seconds, a lease silent at `t` stays silent at every later instant until it is
heard from. -/
theorem Lease.Silent.mono {c : Config} {l : Lease} {t t' : Instant}
    (hl : l.lastHeartbeat.Leapless) (ht : t.Leapless) (ht' : t'.Leapless) (h : t ≤ t')
    (hs : l.Silent c t) : l.Silent c t' :=
  Nat.lt_of_lt_of_le hs (Instant.elapsedSince_mono ht ht' hl h)

end Pool

/-- Outside leap seconds the time arithmetic is exact and monotone. The time elapsed between two
instants is their difference to the nanosecond when they are in order and zero otherwise. From
an instant with a representable date at most `Instant.max`, leap second or not, the deadline a
span later is the sum exactly when the span fits a signed time difference and the sum is at most
`Instant.max`; and the time from an instant to its deadline is the span. The time elapsed grows with the later instant and shrinks with the
earlier one; so a timed-out request stays timed out, and a silent lease stays silent while it is
not heard from. -/
theorem clock_arithmetic_exact_and_monotone :
    (∀ a b : Instant, a.Leapless → b.Leapless →
      (b ≤ a → ((a.elapsedSince b).nanos : Int) =
        (a.secs - b.secs) * 1000000000 + ((a.frac : Int) - b.frac)) ∧
      (a < b → a.elapsedSince b = Span.zero)) ∧
    (∀ (a : Instant) (d : Span) (t : Instant), a.inRange = true → a ≤ Instant.max →
      (a.deadlineAfter d = some t ↔
        t = a.plus d ∧ d ≤ Instant.maxDelta ∧ a.plus d ≤ Instant.max)) ∧
    (∀ (a t : Instant) (d : Span), a.Leapless → a.deadlineAfter d = some t →
      t.elapsedSince a = d) ∧
    (∀ a a' b : Instant, a.Leapless → a'.Leapless → b.Leapless → a ≤ a' →
      a.elapsedSince b ≤ a'.elapsedSince b) ∧
    (∀ a b b' : Instant, a.Leapless → b.Leapless → b'.Leapless → b ≤ b' →
      a.elapsedSince b' ≤ a.elapsedSince b) ∧
    (∀ (r : Pool.Request) (t t' : Instant), r.sentAt.Leapless → t.Leapless → t'.Leapless →
      t ≤ t' → r.timedOut t = true → r.timedOut t' = true) ∧
    (∀ (c : Pool.Config) (l : Pool.Lease) (t t' : Instant), l.lastHeartbeat.Leapless →
      t.Leapless → t'.Leapless → t ≤ t' → l.Silent c t → l.Silent c t') :=
  ⟨fun _ _ ha hb ↦ ⟨Instant.elapsedSince_of_le ha hb, Instant.elapsedSince_of_lt ha hb⟩,
    fun _ d t ha hmax ↦ Instant.deadlineAfter_eq_some_iff ha hmax d t,
    fun _ _ _ ha h ↦ Instant.elapsedSince_deadlineAfter ha h,
    fun _ _ _ ha ha' hb h ↦ Instant.elapsedSince_mono ha ha' hb h,
    fun _ _ _ ha hb hb' h ↦ Instant.elapsedSince_anti ha hb hb' h,
    fun _ _ _ hs ht ht' h hout ↦ Pool.Request.timedOut_mono hs ht ht' h hout,
    fun _ _ _ _ hl ht ht' h hs ↦ Pool.Lease.Silent.mono hl ht ht' h hs⟩

/-- Away from leap seconds the arithmetic is exact and a timeout stays: the deadline half a
minute after noon on the first of March 2026 is half a minute away from noon, and a request sent
at noon with that timeout, timed out at 12:00:31, is still timed out at 12:01:00. -/
theorem noon_request_stays_timed_out :
    let noon : Instant := ⟨1772366400, 0⟩
    let r : Pool.Request := ⟨"a", "a-run", "a-req-0", noon, Span.ofSeconds 30, 0⟩
    noon.deadlineAfter (Span.ofSeconds 30) = some ⟨1772366430, 0⟩ ∧
      (⟨1772366430, 0⟩ : Instant).elapsedSince noon = Span.ofSeconds 30 ∧
      r.timedOut ⟨1772366431, 0⟩ = true ∧ r.timedOut ⟨1772366460, 0⟩ = true := by
  intro noon r
  obtain ⟨-, -, hexact, -, -, hstays, -⟩ := clock_arithmetic_exact_and_monotone
  have hdeadline : noon.deadlineAfter (Span.ofSeconds 30) = some ⟨1772366430, 0⟩ := by decide
  have hout : r.timedOut ⟨1772366431, 0⟩ = true := by decide
  exact ⟨hdeadline, hexact noon _ _ rfl hdeadline, hout,
    hstays r ⟨1772366431, 0⟩ ⟨1772366460, 0⟩ rfl rfl rfl (by decide) hout⟩

/-- A leap second undoes a timeout. A request sent at 2026-03-01T12:00:59Z with a timeout of one
and a half seconds has waited it at 12:00:60.9, nine tenths into the leap second that ends the
minute, and not at 12:01:00 a tenth of a second later: the arithmetic counts the first reading as
1.9 s after the request and the second as 1 s. -/
theorem request_timeout_lapses_leaving_leap_second :
    let r : Pool.Request := ⟨"a", "a-run", "a-req-0", ⟨1772366459, 0⟩, Span.ofMillis 1500, 0⟩
    (⟨1772366459, 1900000000⟩ : Instant) ≤ ⟨1772366460, 0⟩ ∧
      r.timedOut ⟨1772366459, 1900000000⟩ = true ∧ r.timedOut ⟨1772366460, 0⟩ = false := by
  decide

end SlotKeeper
