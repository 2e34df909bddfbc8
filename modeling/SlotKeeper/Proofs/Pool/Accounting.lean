import SlotKeeper.Proofs.Pool.Transitions

/-!
# Slot accounting of the pool's books

`Books.Accounted b c` is the accounting the books keep under a configuration `c`: every lease is
filed under its holder's id, the free count is the capacity less the leases held (zero once the
leases outnumber the slots), a request waits only while no slot is free, and the queue stays
within its depth.

The main statement, `accounted_invariant`, says that an empty pool is accounted for any capacity
and depth; that every transition of accounted books, with any request, requester, capacity and
instant (also one before the instants recorded), leaves them accounted under the configuration
after it; and that no transition lets the leases outnumber both their count before it and the
capacity after it, so a new lease is only granted while a slot is free and the leases exceed the
slots only after the capacity was lowered, never growing while they do. Accounted books balance
whenever their leases fit the capacity.
-/

namespace SlotKeeper.Pool

namespace Books

/-- Leases filed under their holders, and the free count the capacity less the leases held. -/
structure Reconciled (b : Books) (capacity : Nat) : Prop where
  keyed : b.leases.Keyed
  available_eq : b.available = capacity - b.leases.size

/-- The slot accounting of the books under a configuration. -/
structure Accounted (b : Books) (c : Config) : Prop extends Reconciled b c.capacity where
  full_of_waiting : b.queue ≠ [] → b.available = 0
  queue_le_depth : b.queue.length ≤ c.queueDepth

theorem fresh_accounted (c : Config) : (fresh c).Accounted c where
  keyed := Leases.keyed_empty
  available_eq := rfl
  full_of_waiting h := absurd rfl h
  queue_le_depth := Nat.zero_le _

theorem reconcile_reconciled {b : Books} (c : Config) (h : b.leases.Keyed) :
    (b.reconcile c).Reconciled c.capacity :=
  ⟨h, rfl⟩

/-- The slot-granting loop keeps the books reconciled, stops only with no slot free or nothing
waiting, and grants a new lease only while the leases are below the capacity. -/
theorem assignFrom_reconciled (now : Instant) (capacity free : Nat) (queue : List Request)
    (leases : Leases) :
    Reconciled ⟨free, queue, leases⟩ capacity →
      (assignFrom now free queue leases).1.Reconciled capacity ∧
      ((assignFrom now free queue leases).1.queue ≠ [] →
        (assignFrom now free queue leases).1.available = 0) ∧
      (assignFrom now free queue leases).1.leases.size ≤ max leases.size capacity := by
  fun_induction assignFrom now free queue leases with
  | case1 queue leases =>
    intro h
    exact ⟨h, fun _ ↦ rfl, Nat.le_max_left _ _⟩
  | case2 free leases =>
    intro h
    exact ⟨h, fun hq ↦ absurd rfl hq, Nat.le_max_left _ _⟩
  | case3 free r queue leases _ b out hrec ih =>
    intro h
    rw [hrec] at ih
    exact ih ⟨h.keyed, h.available_eq⟩
  | case4 free r queue leases _ _ b out hrec ih =>
    intro h
    rw [hrec] at ih
    have h' : Reconciled ⟨free + 1, queue, leases.modify r.requester (·.touch now)⟩ capacity := by
      refine ⟨h.keyed.modify _ (fun l ↦ rfl), ?_⟩
      rw [Leases.size_modify]
      exact h.available_eq
    obtain ⟨hr, hw, hs⟩ := ih h'
    exact ⟨hr, hw, by simpa using hs⟩
  | case5 free r queue leases _ hheld b out hrec ih =>
    intro h
    rw [hrec] at ih
    have hsize : (leases.insert r.requester (Lease.grant r now)).size = leases.size + 1 :=
      Leases.size_insert_of_contains_eq_false _ (eq_false_of_ne_true hheld)
    have hfree : free + 1 = capacity - leases.size := h.available_eq
    have h' : Reconciled ⟨free, queue, leases.insert r.requester (Lease.grant r now)⟩ capacity := by
      refine ⟨h.keyed.insert (Lease.grant_requester r now), ?_⟩
      show free = capacity - (leases.insert r.requester (Lease.grant r now)).size
      omega
    obtain ⟨hr, hw, hs⟩ := ih h'
    refine ⟨hr, hw, ?_⟩
    -- the new lease took a free slot, so the leases were below the capacity before it
    have hbelow : leases.size + 1 ≤ capacity := by omega
    dsimp only at hs ⊢
    rw [hsize] at hs
    omega

/-- Reconciled books within the queue depth come out of `assignSlots` accounted, with no more
leases than before or than the capacity. -/
theorem assignSlots_accounted {b : Books} {c : Config} (now : Instant)
    (h : b.Reconciled c.capacity) (hq : b.queue.length ≤ c.queueDepth) :
    (b.assignSlots now).1.Accounted c ∧
      (b.assignSlots now).1.leases.size ≤ max b.leases.size c.capacity := by
  obtain ⟨hr, hw, hs⟩ := assignFrom_reconciled now c.capacity b.available b.queue b.leases h
  obtain ⟨served, hserved, -⟩ := assignFrom_queue now b.available b.queue b.leases
  have hlen : (b.assignSlots now).1.queue.length ≤ b.queue.length := by
    have h' := congrArg List.length hserved
    rw [List.length_append] at h'
    show (assignFrom now b.available b.queue b.leases).1.queue.length ≤ b.queue.length
    omega
  exact ⟨⟨hr, hw, Nat.le_trans hlen hq⟩, hs⟩

theorem acquire_accounted {b : Books} {c : Config} (r : Request) (now : Instant)
    (h : b.Accounted c) :
    (b.acquire c r now).1.Accounted c ∧
      (b.acquire c r now).1.leases.size ≤ max b.leases.size c.capacity := by
  unfold acquire
  by_cases hheld : b.leases.contains r.requester = true
  · -- a held lease is refreshed: nothing is counted differently
    rw [if_pos hheld]
    refine ⟨⟨⟨h.keyed.modify _ (fun l ↦ rfl), ?_⟩, h.full_of_waiting, h.queue_le_depth⟩, ?_⟩
    · rw [Leases.size_modify]
      exact h.available_eq
    · rw [Leases.size_modify]
      exact Nat.le_max_left _ _
  rw [if_neg hheld]
  have hsize : (b.leases.insert r.requester (Lease.grant r now)).size = b.leases.size + 1 :=
    Leases.size_insert_of_contains_eq_false _ (eq_false_of_ne_true hheld)
  by_cases hfree : b.available > 0
  · -- a free slot is leased; with a slot free nothing waits
    rw [if_pos hfree]
    have havail := h.available_eq
    have hempty : b.queue = [] := by
      by_contra hq
      have := h.full_of_waiting hq
      omega
    refine ⟨⟨⟨h.keyed.insert (Lease.grant_requester r now), ?_⟩, ?_, ?_⟩, ?_⟩
    · show b.available - 1 = c.capacity - (b.leases.insert r.requester (Lease.grant r now)).size
      omega
    · intro hq
      exact absurd hempty hq
    · exact h.queue_le_depth
    · show (b.leases.insert r.requester (Lease.grant r now)).size ≤ max b.leases.size c.capacity
      omega
  rw [if_neg hfree]
  have hzero : b.available = 0 := by omega
  by_cases hfull : b.queue.length ≥ c.queueDepth
  · rw [if_pos hfull]
    exact ⟨h, Nat.le_max_left _ _⟩
  · -- the request waits, and no slot is free
    rw [if_neg hfull]
    refine ⟨⟨⟨h.keyed, h.available_eq⟩, fun _ ↦ hzero, ?_⟩, Nat.le_max_left _ _⟩
    show (b.queue ++ [r]).length ≤ c.queueDepth
    rw [List.length_append, List.length_singleton]
    omega

theorem released_reconciled {b : Books} {c : Config} (requester : String) (h : b.Accounted c) :
    (b.released c requester).Reconciled c.capacity ∧
      (b.released c requester).queue = b.queue ∧
      (b.released c requester).leases.size ≤ b.leases.size := by
  unfold released
  by_cases hheld : b.leases.contains requester = true
  · rw [if_pos hheld]
    exact ⟨reconcile_reconciled c (h.keyed.erase requester), rfl,
      Leases.size_erase_le b.leases requester⟩
  · rw [if_neg hheld]
    exact ⟨h.toReconciled, rfl, Nat.le_refl _⟩

theorem release_accounted {b : Books} {c : Config} (requester : String) (now : Instant)
    (h : b.Accounted c) :
    (b.release c requester now).1.Accounted c ∧
      (b.release c requester now).1.leases.size ≤ max b.leases.size c.capacity := by
  obtain ⟨hr, hq, hs⟩ := released_reconciled requester h
  rw [release_eq]
  obtain ⟨ha, hs'⟩ := assignSlots_accounted now hr (hq ▸ h.queue_le_depth)
  exact ⟨ha, by omega⟩

theorem heartbeat_accounted {b : Books} {c : Config} (requester : String) (now : Instant)
    (h : b.Accounted c) :
    (b.heartbeat requester now).1.Accounted c ∧
      (b.heartbeat requester now).1.leases.size ≤ max b.leases.size c.capacity := by
  unfold heartbeat
  by_cases hheld : b.leases.contains requester = true
  · rw [if_pos hheld]
    refine ⟨⟨⟨h.keyed.modify _ (fun l ↦ rfl), ?_⟩, h.full_of_waiting, h.queue_le_depth⟩, ?_⟩
    · rw [Leases.size_modify]
      exact h.available_eq
    · rw [Leases.size_modify]
      exact Nat.le_max_left _ _
  · rw [if_neg hheld]
    exact ⟨h, Nat.le_max_left _ _⟩

theorem updateCapacity_accounted {b : Books} {c : Config} (capacity : Int) (now : Instant)
    (h : b.Accounted c) :
    (b.updateCapacity c capacity now).1.Accounted (b.updateCapacity c capacity now).2.1 ∧
      (b.updateCapacity c capacity now).1.leases.size ≤
        max b.leases.size (b.updateCapacity c capacity now).2.1.capacity := by
  by_cases hpos : 0 < capacity
  · -- the free count is recomputed for the new capacity; no lease is taken away
    rw [updateCapacity_of_pos b c now hpos]
    exact assignSlots_accounted now (reconcile_reconciled _ h.keyed) h.queue_le_depth
  · rw [updateCapacity_of_nonpos b c now (Int.not_lt.mp hpos)]
    exact ⟨h, Nat.le_max_left _ _⟩

theorem swept_reconciled {b : Books} {c : Config} (now : Instant) (h : b.Accounted c) :
    (b.swept c now).Reconciled c.capacity ∧
      (b.swept c now).queue.length ≤ b.queue.length ∧
      (b.swept c now).leases.size ≤ b.leases.size := by
  refine ⟨⟨h.keyed.foldl_erase _, ?_⟩, List.length_filter_le _ _,
    Leases.size_foldl_erase_le _ _⟩
  rw [swept_available]
  by_cases hgone : (b.silent c now).isEmpty = true
  · -- nothing was reclaimed, so the leases and the free count are those before
    rw [if_pos hgone]
    show b.available = c.capacity - ((b.silent c now).foldl Leases.erase b.leases).size
    rw [List.isEmpty_iff.mp hgone, List.foldl_nil]
    exact h.available_eq
  · rw [if_neg hgone]

theorem expire_accounted {b : Books} {c : Config} (now : Instant) (h : b.Accounted c) :
    (b.expire c now).1.Accounted c ∧
      (b.expire c now).1.leases.size ≤ max b.leases.size c.capacity := by
  obtain ⟨hr, hq, hs⟩ := swept_reconciled now h
  rw [expire_eq]
  dsimp only
  obtain ⟨ha, hs'⟩ := assignSlots_accounted now hr (Nat.le_trans hq h.queue_le_depth)
  exact ⟨ha, by omega⟩

end Books

namespace Op

/-- Every transition keeps the accounting, and leaves at most as many leases as there were before
it or as the capacity after it allows. -/
theorem apply_accounted {b : Books} {c : Config} (op : Op) (h : b.Accounted c) :
    (op.apply b c).1.Accounted (op.apply b c).2.1 ∧
      (op.apply b c).1.leases.size ≤ max b.leases.size (op.apply b c).2.1.capacity := by
  cases op with
  | acquire r now => exact Books.acquire_accounted r now h
  | release requester now => exact Books.release_accounted requester now h
  | heartbeat requester now => exact Books.heartbeat_accounted requester now h
  | updateCapacity capacity now => exact Books.updateCapacity_accounted capacity now h
  | expire now => exact Books.expire_accounted now h
  | assignSlots now =>
    exact Books.assignSlots_accounted now h.toReconciled h.queue_le_depth

/-- Every run of transitions keeps the accounting. -/
theorem run_accounted {b : Books} {c : Config} (ops : List Op) (h : b.Accounted c) :
    (run ops b c).1.Accounted (run ops b c).2.1 := by
  induction ops generalizing b c with
  | nil => exact h
  | cons op ops ih => exact ih (op.apply_accounted h).1

end Op

namespace Books

/-- Accounted books balance as soon as their leases fit the capacity, a count of 64 bits. -/
theorem balanced_of_accounted {b : Books} {c : Config} (h : b.Accounted c)
    (hfit : b.leases.size ≤ c.capacity) (hword : c.capacity < Nat.pow 2 64) :
    b.balanced c = .ok true := by
  have hsum : b.available + b.leases.size = c.capacity := by
    rw [h.available_eq]
    omega
  unfold balanced
  rw [if_neg (by omega), hsum]
  simp

end Books

/-- The slot-accounting invariant of the pool's books: an empty pool is accounted; every
transition keeps the accounting under the configuration after it and grows the leases only up to
the capacity; every run from an empty pool stays accounted; and accounted books balance when
their leases fit the capacity. -/
theorem accounted_invariant :
    (∀ c : Config, (Books.fresh c).Accounted c) ∧
    (∀ (b : Books) (c : Config) (op : Op), b.Accounted c →
      (op.apply b c).1.Accounted (op.apply b c).2.1 ∧
        (op.apply b c).1.leases.size ≤ max b.leases.size (op.apply b c).2.1.capacity) ∧
    (∀ (c : Config) (ops : List Op),
      (Op.run ops (Books.fresh c) c).1.Accounted (Op.run ops (Books.fresh c) c).2.1) ∧
    (∀ (b : Books) (c : Config), b.Accounted c → b.leases.size ≤ c.capacity →
      c.capacity < Nat.pow 2 64 → b.balanced c = .ok true) :=
  ⟨Books.fresh_accounted, fun _ _ op h ↦ op.apply_accounted h,
    fun c ops ↦ Op.run_accounted ops (Books.fresh_accounted c),
    fun _ _ h hfit hword ↦ Books.balanced_of_accounted h hfit hword⟩

end SlotKeeper.Pool
