import SlotKeeper.Proofs.Pool.Holdings
import SlotKeeper.Proofs.Pool.Accounting

/-!
# Reclaiming silent leases

A lease is silent at an instant when it went unheard for longer than the lease timeout; one
unheard for exactly the timeout is not (`Lease.Silent`). The timer sweep collects the holders of
the silent leases from the leases themselves and erases the table's entries under those ids.

The main statement, `expire_reclaims_exactly_silent`: when the table files every lease under its
holder's id, once per id, the sweep at `now` takes away exactly the silent leases (a key that held
one holds afterwards at most a lease granted at `now` to a waiting request), keeps every other
lease under its key with at most its last heartbeat set to `now`, leaves no silent lease behind and
the table one entry per id, and hands the freed slots to the queue in the same call: afterwards a
request waits only while no slot is free, and once a lease was reclaimed the free count is the
capacity less the leases held. A lease filed under another id than its holder's can outlive the
sweep while silent.
-/

namespace SlotKeeper

@[simp]
theorem Instant.elapsedSince_self (t : Instant) : t.elapsedSince t = Span.zero := by
  simp [Instant.elapsedSince, Instant.since, Span.zero]

namespace Pool

open Json

/-- A lease is silent at `now` under `c` when it went unheard for longer than the lease timeout. -/
def Lease.Silent (c : Config) (now : Instant) (l : Lease) : Prop :=
  c.leaseTimeout < now.elapsedSince l.lastHeartbeat

instance (c : Config) (now : Instant) (l : Lease) : Decidable (l.Silent c now) :=
  inferInstanceAs (Decidable (c.leaseTimeout < _))

/-- A lease heard from at `now` is not silent at `now`. -/
theorem Lease.not_silent_of_heard {c : Config} {now : Instant} {l : Lease}
    (h : l.lastHeartbeat = now) : ¬ l.Silent c now := by
  unfold Silent
  rw [h, Instant.elapsedSince_self]
  exact Nat.not_lt_zero _

/-! ## The slot-granting loop -/

namespace Leases

/-- Every lease of the table is what its key finds. -/
theorem find?_of_mem_values (m : Leases) {l : Lease} (hl : l ∈ m.values) :
    ∃ k, m.find? k = some l := by
  obtain ⟨e, he, rfl⟩ := List.mem_map.mp hl
  exact ⟨e.1, Entries.lookup_of_mem m.distinct he⟩

end Leases

namespace Books

/-- The slot-granting loop stops with requests waiting only once no slot is free. -/
theorem assignFrom_full_of_waiting (now : Instant) (free : Nat) (queue : List Request)
    (leases : Leases) :
    (assignFrom now free queue leases).1.queue ≠ [] →
      (assignFrom now free queue leases).1.available = 0 := by
  fun_induction assignFrom now free queue leases with
  | case1 queue leases => exact fun _ ↦ rfl
  | case2 free leases => exact fun hq ↦ absurd rfl hq
  | case3 free r queue leases _ b out hrec ih
  | case4 free r queue leases _ _ b out hrec ih
  | case5 free r queue leases _ _ b out hrec ih =>
    rw [hrec] at ih
    exact ih

/-! ## The sweep -/

/-- With every lease filed under its holder's id, the sweep erases the ids of exactly the
silent leases. -/
theorem mem_silent_iff {b : Books} {c : Config} {now : Instant} (hkeyed : b.leases.Keyed)
    {k : String} :
    k ∈ b.silent c now ↔ ∃ l, b.leases.find? k = some l ∧ l.Silent c now := by
  unfold silent
  constructor
  · intro hk
    obtain ⟨l, hl, rfl⟩ := List.mem_map.mp hk
    obtain ⟨hval, hsilent⟩ := List.mem_filter.mp hl
    obtain ⟨e, he, rfl⟩ := List.mem_map.mp hval
    have hkey : e.2.requester = e.1 := hkeyed e he
    refine ⟨e.2, ?_, of_decide_eq_true hsilent⟩
    rw [hkey]
    exact Entries.lookup_of_mem b.leases.distinct he
  · rintro ⟨l, hl, hsilent⟩
    have hmem := Entries.mem_of_lookup hl
    have hkey : l.requester = k := hkeyed _ hmem
    refine List.mem_map.mpr ⟨l, List.mem_filter.mpr ⟨?_, decide_eq_true hsilent⟩, hkey⟩
    exact List.mem_map.mpr ⟨(k, l), hmem, rfl⟩

theorem swept_find? (b : Books) (c : Config) (now : Instant) (k : String) :
    (b.swept c now).leases.find? k = if k ∈ b.silent c now then none else b.leases.find? k :=
  Leases.find?_foldl_erase b.leases _ k

theorem expire_leases (b : Books) (c : Config) (now : Instant) :
    (b.expire c now).1 = ((b.swept c now).assignSlots now).1 := by
  rw [expire_eq]

/-- Every lease the sweep leaves was held before and not silent, perhaps heard from since, or was
granted at `now` to a request that waited. -/
theorem expire_find?_cases {b : Books} {c : Config} {now : Instant} (hkeyed : b.leases.Keyed)
    {k : String} {l' : Lease}
    (h : (b.expire c now).1.leases.find? k = some l') :
    (∃ l, b.leases.find? k = some l ∧ ¬ l.Silent c now ∧ l.Refreshed now l') ∨
      ∃ r ∈ b.queue, r.requester = k ∧ l' = Lease.grant r now := by
  rw [expire_leases] at h
  have hsourced := (assignFrom_leases now (b.swept c now).available (b.swept c now).queue
    (b.swept c now).leases).2
  rcases hsourced k l' h with ⟨l, hl, hrefreshed⟩ | ⟨r, hr, hkey, hgrant⟩
  · -- the swept table found `l`, so `k` named no silent lease and `l` was held before
    rw [swept_find?] at hl
    by_cases hk : k ∈ b.silent c now
    · rw [if_pos hk] at hl
      cases hl
    · rw [if_neg hk] at hl
      exact .inl ⟨l, hl, fun hsilent ↦ hk ((mem_silent_iff hkeyed).mpr ⟨l, hl, hsilent⟩),
        hrefreshed⟩
  · exact .inr ⟨r, (List.mem_filter.mp hr).1, hkey, hgrant⟩

theorem expire_keeps_live {b : Books} {c : Config} {now : Instant} (hkeyed : b.leases.Keyed)
    {k : String} {l : Lease} (hl : b.leases.find? k = some l)
    (hlive : ¬ l.Silent c now) :
    ∃ l', (b.expire c now).1.leases.find? k = some l' ∧ l.Refreshed now l' := by
  have hk : k ∉ b.silent c now := by
    rintro hk
    obtain ⟨l₀, hl₀, hsilent⟩ := (mem_silent_iff hkeyed).mp hk
    rw [hl] at hl₀
    cases hl₀
    exact hlive hsilent
  have hswept : (b.swept c now).leases.find? k = some l := by
    rw [swept_find?, if_neg hk, hl]
  rw [expire_leases]
  exact (assignFrom_leases now (b.swept c now).available (b.swept c now).queue
    (b.swept c now).leases).1 k l hswept

/-- What the sweep does to the leases and the free count. -/
structure SweepsExactly (b : Books) (c : Config) (now : Instant) : Prop where
  /-- A key that held a silent lease holds at most a lease granted at `now` from the queue. -/
  silent_gone : ∀ k l, b.leases.find? k = some l → l.Silent c now →
    ∀ l', (b.expire c now).1.leases.find? k = some l' →
      ∃ r ∈ b.queue, r.requester = k ∧ l' = Lease.grant r now
  /-- Every other lease stays under its key, at most heard from at `now`. -/
  live_kept : ∀ k l, b.leases.find? k = some l → ¬ l.Silent c now →
    ∃ l', (b.expire c now).1.leases.find? k = some l' ∧ l.Refreshed now l'
  /-- No lease left is silent. -/
  none_silent : ∀ l ∈ (b.expire c now).1.leases.values, ¬ l.Silent c now
  /-- The table keeps one entry per id. -/
  distinct : (b.expire c now).1.leases.Distinct
  /-- Freed slots go to the queue: a request waits only while no slot is free. -/
  full_of_waiting : (b.expire c now).1.queue ≠ [] → (b.expire c now).1.available = 0
  /-- Once a lease was reclaimed, the free count is the capacity less the leases held. -/
  recounted : (∃ l ∈ b.leases.values, l.Silent c now) →
    (b.expire c now).1.available = c.capacity - (b.expire c now).1.leases.size

theorem sweepsExactly {b : Books} (c : Config) (now : Instant) (hkeyed : b.leases.Keyed) :
    b.SweepsExactly c now := by
  refine ⟨fun k l hl hsilent l' hl' ↦ ?_, fun k l hl hlive ↦ expire_keeps_live hkeyed hl hlive,
    fun l' hl' ↦ ?_, Leases.distinct _, ?_, fun hsome ↦ ?_⟩
  · -- the silent lease itself cannot be what the key finds afterwards
    rcases expire_find?_cases hkeyed hl' with ⟨l₀, hl₀, hlive, -⟩ | hgrant
    · rw [hl] at hl₀
      cases hl₀
      exact absurd hsilent hlive
    · exact hgrant
  · -- a lease left was live and at most heard from at `now`, or granted at `now`
    obtain ⟨k, hk⟩ := Leases.find?_of_mem_values _ hl'
    rcases expire_find?_cases hkeyed hk with ⟨l, -, hlive, rfl | rfl⟩ | ⟨r, -, -, rfl⟩
    · exact hlive
    · exact Lease.not_silent_of_heard rfl
    · exact Lease.not_silent_of_heard rfl
  · rw [expire_leases]
    exact assignFrom_full_of_waiting now _ _ _
  · -- a reclaimed lease makes the sweep recount the free slots, and the loop keeps the count
    obtain ⟨l, hl, hsilent⟩ := hsome
    obtain ⟨k, hk⟩ := Leases.find?_of_mem_values _ hl
    have hgone : (b.silent c now).isEmpty = false := by
      rw [List.isEmpty_eq_false_iff_exists_mem]
      exact ⟨k, (mem_silent_iff hkeyed).mpr ⟨l, hk, hsilent⟩⟩
    have hrecounted : (b.swept c now).Reconciled c.capacity := by
      refine ⟨hkeyed.foldl_erase _, ?_⟩
      rw [swept_available, hgone, if_neg Bool.false_ne_true]
    rw [expire_leases]
    exact (assignFrom_reconciled now c.capacity _ _ _ hrecounted).1.available_eq

end Books

/-- A lease of `"wf-1"` filed under `"wf-0"` and silent since noon. -/
def misfiledBooks : Books :=
  ⟨0, [], ⟨[("wf-0", ⟨"wf-1", "wf-1-run", "wf-1-req", ⟨1772366400, 0⟩, ⟨1772366400, 0⟩, none⟩)],
    List.pairwise_singleton _ _⟩⟩

/-- The sweep reclaims exactly the silent leases when every lease is filed once under its
holder's id; a lease filed under another id can outlive the sweep while silent. -/
theorem expire_reclaims_exactly_silent :
    (∀ (b : Books) (c : Config) (now : Instant), b.leases.Keyed → b.leases.Distinct →
      b.SweepsExactly c now) ∧
    ∃ (b : Books) (c : Config) (now : Instant), ¬ b.leases.Keyed ∧
      ∃ l ∈ (b.expire c now).1.leases.values, l.Silent c now := by
  refine ⟨fun b c now hkeyed _ ↦ Books.sweepsExactly c now hkeyed,
    misfiledBooks, Config.default, ⟨1772367001, 0⟩, ?_, ?_⟩
  · intro hkeyed
    exact absurd (hkeyed _ List.mem_cons_self) (by decide)
  · -- the sweep erases the holder's id, under which nothing is filed
    refine ⟨⟨"wf-1", "wf-1-run", "wf-1-req", ⟨1772366400, 0⟩, ⟨1772366400, 0⟩, none⟩, ?_, ?_⟩
    · decide
    · decide

/-- Books of one slot at noon on the first of March 2026: `"wf-1"` holds the slot since noon and
`"wf-2"` waits for an hour from a second later. -/
def marchSaturated : Books :=
  ⟨0, [⟨"wf-2", "wf-2-run", "wf-2-req", ⟨1772366401, 0⟩, Span.ofSeconds 3600, 0⟩],
    ⟨[("wf-1", ⟨"wf-1", "wf-1-run", "wf-1-req", ⟨1772366400, 0⟩, ⟨1772366400, 0⟩, none⟩)],
      List.pairwise_singleton _ _⟩⟩

/-- One second past a ten-minute lease timeout, the sweep reclaims `"wf-1"`'s lease and grants
the slot to `"wf-2"`. -/
theorem silent_lease_reclaimed_past_timeout :
    marchSaturated.leases.Keyed ∧ marchSaturated.leases.Distinct ∧
      marchSaturated.SweepsExactly ⟨1, 5, Span.ofSeconds 600, Span.ofSeconds 30⟩ ⟨1772367001, 0⟩ :=
  have hkeyed : marchSaturated.leases.Keyed := by
    intro e he
    rw [List.mem_singleton.mp he]
  have hdistinct : marchSaturated.leases.Distinct := Leases.distinct _
  ⟨hkeyed, hdistinct, expire_reclaims_exactly_silent.1 _ _ _ hkeyed hdistinct⟩

end Pool

end SlotKeeper
