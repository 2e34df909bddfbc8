import SlotKeeper.Proofs.Pool.Continuation

/-!
# Held leases under the transitions

What a lookup in the lease table finds after each table operation, and what every transition does
to the leases it finds. `Leases.Kept now m m'` says that every lease of `m` is still held in `m'`
under the same key, either as it was or heard from at `now`.

The main statement, `leases_kept_unless_released`: an acquire, a heartbeat, a capacity update
(to any value, also one below the number of leases held) and the slot-granting loop keep every
lease; a release keeps every lease but the releasing requester's; a capacity update that is not
positive changes nothing and answers nothing; and the coordinator leaves itself alone and answers
nothing when it turns a signal away: one of a kind it does not know, one whose payload does not
read, or a capacity update that is not positive.

The slot-granting loop also accounts for every lease it leaves: each is a lease held before,
perhaps heard from, or one granted at that instant to a request it popped (`Leases.Sourced`).
The sweep's reclamation rests on that.
-/

namespace SlotKeeper.Pool

open Json Workflow

/-! ## Lookups in the lease table -/

namespace Entries

theorem lookup_insert_ne {key k : String} (lease : Lease) (es : Entries) (h : k ≠ key) :
    lookup k (insert key lease es) = lookup k es := by
  induction es with
  | nil => simp [insert, lookup, Ne.symm h]
  | cons e rest ih =>
    obtain ⟨k', l⟩ := e
    by_cases hlt : key < k'
    · simp [insert, lookup, hlt, Ne.symm h]
    · by_cases heq : key = k'
      · subst heq
        simp [insert, lookup, Ne.symm h]
      · simp [insert, lookup, hlt, heq, ih]

theorem lookup_modify (key k : String) (f : Lease → Lease) (es : Entries) :
    lookup k (modify key f es) = if k = key then (lookup k es).map f else lookup k es := by
  induction es with
  | nil => simp [modify, lookup]
  | cons e rest ih =>
    obtain ⟨k', l⟩ := e
    by_cases hkey : k' = key
    · subst hkey
      by_cases hk : k' = k
      · subst hk
        simp [modify, lookup]
      · simp [modify, lookup, hk, Ne.symm hk]
    · by_cases hk : k' = k
      · subst hk
        simp [modify, lookup, hkey]
      · simp [modify, lookup, hkey, hk, ih]

theorem lookup_erase_ne {key k : String} (es : Entries) (h : k ≠ key) :
    lookup k (erase key es) = lookup k es := by
  induction es with
  | nil => rfl
  | cons e rest ih =>
    obtain ⟨k', l⟩ := e
    by_cases hkey : k' = key
    · subst hkey
      simp [erase, lookup, Ne.symm h]
    · simp [erase, lookup, hkey, ih]

/-- A lookup finds nothing exactly when no entry holds the key. -/
theorem lookup_eq_none_iff {k : String} {es : Entries} :
    lookup k es = none ↔ k ∉ es.map Prod.fst := by
  induction es with
  | nil => simp [lookup]
  | cons e rest ih =>
    obtain ⟨k', l⟩ := e
    by_cases hk : k' = k
    · simp [lookup, hk]
    · simp [lookup, hk, ih, Ne.symm hk]

/-- With one entry per key, erasing a key leaves nothing under it. -/
theorem lookup_erase_self {key : String} {es : Entries} (h : (es.map Prod.fst).Nodup) :
    lookup key (erase key es) = none := by
  induction es with
  | nil => rfl
  | cons e rest ih =>
    obtain ⟨k', l⟩ := e
    rw [List.map_cons, List.nodup_cons] at h
    by_cases hkey : k' = key
    · subst hkey
      simpa [erase] using lookup_eq_none_iff.mpr h.1
    · simp [erase, lookup, hkey, ih h.2]

theorem mem_of_lookup {k : String} {l : Lease} {es : Entries} (h : lookup k es = some l) :
    (k, l) ∈ es := by
  induction es with
  | nil => cases h
  | cons e rest ih =>
    obtain ⟨k', l'⟩ := e
    by_cases hk : k' = k
    · subst hk
      simp only [lookup, if_true, Option.some.injEq] at h
      rw [h]
      exact List.mem_cons_self
    · simp only [lookup, hk, if_false] at h
      exact List.mem_cons_of_mem _ (ih h)

/-- With one entry per key, an entry is what a lookup of its key finds. -/
theorem lookup_of_mem {k : String} {l : Lease} {es : Entries} (hnodup : (es.map Prod.fst).Nodup)
    (h : (k, l) ∈ es) : lookup k es = some l := by
  induction es with
  | nil => cases h
  | cons e rest ih =>
    obtain ⟨k', l₀⟩ := e
    rw [List.map_cons, List.nodup_cons] at hnodup
    rcases List.mem_cons.mp h with heq | hrest
    · cases heq
      simp [lookup]
    · -- the entry in the rest holds another key than the head
      have hmem : k ∈ rest.map Prod.fst := List.mem_map.mpr ⟨(k, l), hrest, rfl⟩
      have hk : k' ≠ k := fun hk ↦ hnodup.1 (hk ▸ hmem)
      simp [lookup, hk, ih hnodup.2 hrest]

theorem erase_of_lookup_eq_none {key : String} {es : Entries} (h : lookup key es = none) :
    erase key es = es := by
  induction es with
  | nil => rfl
  | cons e rest ih =>
    obtain ⟨k', l⟩ := e
    have hk : k' ≠ key := by
      intro hk
      simp [lookup, hk] at h
    have hrest : lookup key rest = none := by simpa [lookup, hk] using h
    simp [erase, hk, ih hrest]

end Entries

namespace Leases

/-- One entry per requester id, as in a map. -/
def Distinct (m : Leases) : Prop := (m.entries.map Prod.fst).Nodup

/-- Strictly increasing ids are distinct. -/
theorem distinct (m : Leases) : m.Distinct :=
  m.sorted.imp String.ne_of_lt

theorem find?_insert (m : Leases) (key k : String) (lease : Lease) :
    (m.insert key lease).find? k = if k = key then some lease else m.find? k := by
  by_cases hk : k = key
  · subst hk
    rw [if_pos rfl, find?_insert_self]
  · rw [if_neg hk]
    exact Entries.lookup_insert_ne lease m.entries hk

theorem find?_modify (m : Leases) (key k : String) (f : Lease → Lease) :
    (m.modify key f).find? k = if k = key then (m.find? k).map f else m.find? k :=
  Entries.lookup_modify key k f m.entries

theorem find?_erase_ne (m : Leases) {key k : String} (h : k ≠ key) :
    (m.erase key).find? k = m.find? k :=
  Entries.lookup_erase_ne m.entries h

theorem find?_erase_self (m : Leases) (key : String) : (m.erase key).find? key = none :=
  Entries.lookup_erase_self m.distinct

theorem erase_of_contains_eq_false {m : Leases} {key : String} (h : m.contains key = false) :
    m.erase key = m :=
  Leases.ext (Entries.erase_of_lookup_eq_none (contains_eq_false_iff.mp h))

/-- Erasing a list of keys leaves nothing under those keys and everything under the others. -/
theorem find?_foldl_erase (m : Leases) (keys : List String) (k : String) :
    (keys.foldl erase m).find? k = if k ∈ keys then none else m.find? k := by
  induction keys generalizing m with
  | nil => simp
  | cons key rest ih =>
    rw [List.foldl_cons, ih (m.erase key)]
    by_cases hk : k = key
    · subst hk
      simp [find?_erase_self m]
    · by_cases hrest : k ∈ rest
      · simp [hrest]
      · simp [hrest, hk, find?_erase_ne m hk]

end Leases

/-! ## Leases kept -/

/-- `l'` is the lease `l`, or `l` heard from at `now`. -/
def Lease.Refreshed (now : Instant) (l l' : Lease) : Prop := l' = l ∨ l' = l.touch now

namespace Lease

theorem Refreshed.refl (now : Instant) (l : Lease) : l.Refreshed now l := .inl rfl

@[simp]
theorem touch_touch (l : Lease) (now : Instant) : (l.touch now).touch now = l.touch now := rfl

theorem Refreshed.trans {now : Instant} {l₁ l₂ l₃ : Lease} (h₁₂ : l₁.Refreshed now l₂)
    (h₂₃ : l₂.Refreshed now l₃) : l₁.Refreshed now l₃ := by
  rcases h₁₂ with rfl | rfl <;> rcases h₂₃ with rfl | rfl
  · exact .inl rfl
  · exact .inr rfl
  · exact .inr rfl
  · exact .inr (touch_touch l₁ now)

theorem Refreshed.touch {now : Instant} {l l' : Lease} (h : l.Refreshed now l') :
    l.Refreshed now (l'.touch now) :=
  h.trans (.inr rfl)

/-- A lease granted at `now` is left as it is by a heartbeat at `now`. -/
@[simp]
theorem grant_touch (r : Request) (now : Instant) : (grant r now).touch now = grant r now := rfl

end Lease

/-- Every lease of `m` is held in `m'` under the same key, as it was or heard from at `now`. -/
def Leases.Kept (now : Instant) (m m' : Leases) : Prop :=
  ∀ k l, m.find? k = some l → ∃ l', m'.find? k = some l' ∧ l.Refreshed now l'

namespace Leases.Kept

theorem refl (now : Instant) (m : Leases) : m.Kept now m :=
  fun _ l hl ↦ ⟨l, hl, .refl now l⟩

theorem trans {now : Instant} {m₁ m₂ m₃ : Leases} (h₁₂ : m₁.Kept now m₂) (h₂₃ : m₂.Kept now m₃) :
    m₁.Kept now m₃ := by
  intro k l₁ h₁
  obtain ⟨l₂, h₂, hr₁₂⟩ := h₁₂ k l₁ h₁
  obtain ⟨l₃, h₃, hr₂₃⟩ := h₂₃ k l₂ h₂
  exact ⟨l₃, h₃, hr₁₂.trans hr₂₃⟩

theorem touch (now : Instant) (m : Leases) (key : String) :
    m.Kept now (m.modify key (·.touch now)) := by
  intro k l hl
  rw [find?_modify, hl]
  by_cases hk : k = key
  · rw [if_pos hk]
    exact ⟨l.touch now, rfl, .inr rfl⟩
  · rw [if_neg hk]
    exact ⟨l, rfl, .refl now l⟩

/-- Filing a lease under a key no lease is held under keeps every lease. -/
theorem insert_fresh (now : Instant) {m : Leases} {key : String} (lease : Lease)
    (h : m.contains key = false) : m.Kept now (m.insert key lease) := by
  intro k l hl
  have hk : k ≠ key := by
    rintro rfl
    rw [contains_eq_false_iff] at h
    exact absurd hl (by simp [find?, h])
  exact ⟨l, by rw [find?_insert, if_neg hk, hl], .refl now l⟩

end Leases.Kept

/-- Every lease of `m'` is a lease of `m`, as it was or heard from at `now`, or a lease granted at
`now` to a request of `q` under its requester's id. -/
def Leases.Sourced (now : Instant) (q : List Request) (m m' : Leases) : Prop :=
  ∀ k l', m'.find? k = some l' →
    (∃ l, m.find? k = some l ∧ l.Refreshed now l') ∨
      ∃ r ∈ q, r.requester = k ∧ l' = Lease.grant r now

namespace Leases.Sourced

theorem mono {now : Instant} {q q' : List Request} {m m' : Leases} (h : m.Sourced now q m')
    (hq : ∀ r ∈ q, r ∈ q') : m.Sourced now q' m' := by
  intro k l' hl'
  rcases h k l' hl' with hold | ⟨r, hr, hkey, hgrant⟩
  · exact .inl hold
  · exact .inr ⟨r, hq r hr, hkey, hgrant⟩

/-- A table whose leases all come from `m₂` keeps the account `m₂` gives of them in terms of
`m₁`, when `m₂` refreshes or grants at the same instant. -/
theorem trans {now : Instant} {q : List Request} {m₁ m₂ m₃ : Leases}
    (h₁₂ : m₁.Sourced now q m₂) (h₂₃ : m₂.Sourced now q m₃) : m₁.Sourced now q m₃ := by
  intro k l₃ h₃
  rcases h₂₃ k l₃ h₃ with ⟨l₂, h₂, hr₂₃⟩ | hgrant
  · rcases h₁₂ k l₂ h₂ with ⟨l₁, h₁, hr₁₂⟩ | ⟨r, hr, hkey, rfl⟩
    · exact .inl ⟨l₁, h₁, hr₁₂.trans hr₂₃⟩
    · -- a grant at `now` heard from at `now` is the same grant
      rcases hr₂₃ with rfl | rfl
      · exact .inr ⟨r, hr, hkey, rfl⟩
      · exact .inr ⟨r, hr, hkey, Lease.grant_touch r now⟩
  · exact .inr hgrant

theorem refl (now : Instant) (q : List Request) (m : Leases) : m.Sourced now q m :=
  fun _ l hl ↦ .inl ⟨l, hl, .refl now l⟩

theorem touch (now : Instant) (q : List Request) (m : Leases) (key : String) :
    m.Sourced now q (m.modify key (·.touch now)) := by
  intro k l' hl'
  rw [find?_modify] at hl'
  by_cases hk : k = key
  · rw [if_pos hk] at hl'
    obtain ⟨l, hl, rfl⟩ := Option.map_eq_some_iff.mp hl'
    exact .inl ⟨l, hl, .inr rfl⟩
  · rw [if_neg hk] at hl'
    exact .inl ⟨l', hl', .refl now l'⟩

theorem grant (now : Instant) {q : List Request} (m : Leases) {r : Request} (hr : r ∈ q) :
    m.Sourced now q (m.insert r.requester (Lease.grant r now)) := by
  intro k l' hl'
  rw [find?_insert] at hl'
  by_cases hk : k = r.requester
  · rw [if_pos hk, Option.some.injEq] at hl'
    exact .inr ⟨r, hr, hk.symm, hl'.symm⟩
  · rw [if_neg hk] at hl'
    exact .inl ⟨l', hl', .refl now l'⟩

end Leases.Sourced

/-! ## The transitions -/

namespace Books

/-- The slot-granting loop keeps every lease, and every lease it leaves was held before or was
granted at that instant to a request it popped. -/
theorem assignFrom_leases (now : Instant) (free : Nat) (queue : List Request) (leases : Leases) :
    leases.Kept now (assignFrom now free queue leases).1.leases ∧
      leases.Sourced now queue (assignFrom now free queue leases).1.leases := by
  fun_induction assignFrom now free queue leases with
  | case1 queue leases => exact ⟨.refl now _, .refl now _ _⟩
  | case2 free leases => exact ⟨.refl now _, .refl now _ _⟩
  | case3 free r queue leases _ b out hrec ih =>
    rw [hrec] at ih
    exact ⟨ih.1, ih.2.mono fun r' hr' ↦ List.mem_cons_of_mem r hr'⟩
  | case4 free r queue leases _ _ b out hrec ih =>
    rw [hrec] at ih
    have hsub : ∀ r' ∈ queue, r' ∈ r :: queue := fun r' hr' ↦ List.mem_cons_of_mem r hr'
    exact ⟨(Leases.Kept.touch now leases r.requester).trans ih.1,
      (Leases.Sourced.touch now _ leases r.requester).trans (ih.2.mono hsub)⟩
  | case5 free r queue leases _ hheld b out hrec ih =>
    rw [hrec] at ih
    have hsub : ∀ r' ∈ queue, r' ∈ r :: queue := fun r' hr' ↦ List.mem_cons_of_mem r hr'
    exact ⟨(Leases.Kept.insert_fresh now _ (eq_false_of_ne_true hheld)).trans ih.1,
      (Leases.Sourced.grant now leases List.mem_cons_self).trans (ih.2.mono hsub)⟩

theorem assignSlots_kept (b : Books) (now : Instant) :
    b.leases.Kept now (b.assignSlots now).1.leases :=
  (assignFrom_leases now b.available b.queue b.leases).1

theorem acquire_kept (b : Books) (c : Config) (r : Request) (now : Instant) :
    b.leases.Kept now (b.acquire c r now).1.leases := by
  unfold acquire
  by_cases hheld : b.leases.contains r.requester = true
  · -- re-acquiring is a heartbeat
    rw [if_pos hheld]
    exact Leases.Kept.touch now b.leases r.requester
  rw [if_neg hheld]
  by_cases hfree : b.available > 0
  · rw [if_pos hfree]
    exact Leases.Kept.insert_fresh now _ (eq_false_of_ne_true hheld)
  rw [if_neg hfree]
  by_cases hfull : b.queue.length ≥ c.queueDepth
  · rw [if_pos hfull]
    exact .refl now b.leases
  · rw [if_neg hfull]
    exact .refl now b.leases

theorem heartbeat_kept (b : Books) (requester : String) (now : Instant) :
    b.leases.Kept now (b.heartbeat requester now).1.leases := by
  unfold heartbeat
  by_cases hheld : b.leases.contains requester = true
  · rw [if_pos hheld]
    exact Leases.Kept.touch now b.leases requester
  · rw [if_neg hheld]
    exact .refl now b.leases

/-- A capacity update takes no lease away, whatever the new capacity. -/
theorem updateCapacity_kept (b : Books) (c : Config) (capacity : Int) (now : Instant) :
    b.leases.Kept now (b.updateCapacity c capacity now).1.leases := by
  by_cases hpos : 0 < capacity
  · rw [updateCapacity_of_pos b c now hpos]
    exact assignSlots_kept (b.reconcile (c.resized capacity)) now
  · rw [updateCapacity_of_nonpos b c now (Int.not_lt.mp hpos)]
    exact .refl now b.leases

/-- A release keeps every lease but the releasing requester's. -/
theorem release_kept (b : Books) (c : Config) (requester : String) (now : Instant) :
    (b.leases.erase requester).Kept now (b.release c requester now).1.leases := by
  rw [release_eq]
  have hreleased : (b.released c requester).leases = b.leases.erase requester := by
    unfold released
    by_cases hheld : b.leases.contains requester = true
    · rw [if_pos hheld]
      rfl
    · rw [if_neg hheld, Leases.erase_of_contains_eq_false (eq_false_of_ne_true hheld)]
  rw [← hreleased]
  exact assignSlots_kept _ now

end Books

/-! ## Signals the coordinator turns away -/

namespace Coordinator

/-- A signal the coordinator turns away: one of a kind it does not know, one whose payload the
reader of its kind refuses, or a capacity update to a value that is not positive. -/
inductive Refused (s : Signal) : Prop
  | unknown (h : s.kind ∉ [acquireSignal, releaseSignal, heartbeatSignal, capacitySignal])
  | unreadableRequest {e : DecodeError} (hkind : s.kind = acquireSignal)
      (h : decode Request.decoder s.payload = .error e)
  | unreadableRelease {e : DecodeError} (hkind : s.kind = releaseSignal)
      (h : decode (Holder.decoder "PoolRelease") s.payload = .error e)
  | unreadableHeartbeat {e : DecodeError} (hkind : s.kind = heartbeatSignal)
      (h : decode (Holder.decoder "PoolHeartbeat") s.payload = .error e)
  | unreadableCapacity {e : DecodeError} (hkind : s.kind = capacitySignal)
      (h : decode capacityDecoder s.payload = .error e)
  | nonPositive {n : Int} (hkind : s.kind = capacitySignal)
      (h : decode capacityDecoder s.payload = .ok n) (hn : n ≤ 0)

/-- A signal turned away leaves the coordinator as it was and answers nothing. -/
theorem onSignal_of_refused {s : Signal} (h : Refused s) (c : Coordinator) (now : Instant) :
    c.onSignal s now = (c, []) := by
  unfold onSignal
  cases h with
  | unknown hk =>
    -- the kind is none of the four the coordinator reads
    split
    next heq => exact absurd (by rw [heq]; decide) hk
    next heq => exact absurd (by rw [heq]; decide) hk
    next heq => exact absurd (by rw [heq]; decide) hk
    next heq => exact absurd (by rw [heq]; decide) hk
    next => rfl
  | unreadableRequest hkind h =>
    rw [hkind]
    simp +decide only [acquireSignal, h]
  | unreadableRelease hkind h =>
    rw [hkind]
    simp +decide only [releaseSignal, h]
  | unreadableHeartbeat hkind h =>
    rw [hkind]
    simp +decide only [heartbeatSignal, h]
  | unreadableCapacity hkind h =>
    rw [hkind]
    simp +decide only [capacitySignal, h]
  | nonPositive hkind h hn =>
    rw [hkind]
    simp +decide only [capacitySignal, h, Books.updateCapacity_of_nonpos c.books c.config now hn]
    rfl

end Coordinator

/-- Leases are evicted or rewritten only by their holder's release or by the sweep, and rejected
inputs change nothing: an acquire, a heartbeat, a capacity update to any value and the
slot-granting loop keep every lease under its key, at most heard from at that instant; a release
keeps every lease but the releasing requester's; a capacity update that is not positive leaves
the books and the configuration alone and answers nothing; and so does the coordinator for every
signal it turns away. -/
theorem leases_kept_unless_released :
    (∀ (b : Books) (c : Config) (r : Request) (now : Instant),
      b.leases.Kept now (b.acquire c r now).1.leases) ∧
    (∀ (b : Books) (requester : String) (now : Instant),
      b.leases.Kept now (b.heartbeat requester now).1.leases) ∧
    (∀ (b : Books) (c : Config) (capacity : Int) (now : Instant),
      b.leases.Kept now (b.updateCapacity c capacity now).1.leases) ∧
    (∀ (b : Books) (now : Instant), b.leases.Kept now (b.assignSlots now).1.leases) ∧
    (∀ (b : Books) (c : Config) (requester : String) (now : Instant),
      (b.leases.erase requester).Kept now (b.release c requester now).1.leases) ∧
    (∀ (b : Books) (c : Config) (capacity : Int) (now : Instant), capacity ≤ 0 →
      b.updateCapacity c capacity now = (b, c, [])) ∧
    (∀ (co : Coordinator) (s : Signal) (now : Instant), Coordinator.Refused s →
      co.onSignal s now = (co, [])) :=
  ⟨Books.acquire_kept, Books.heartbeat_kept, Books.updateCapacity_kept, Books.assignSlots_kept,
    Books.release_kept, fun b c _ now h ↦ Books.updateCapacity_of_nonpos b c now h,
    fun co _ now h ↦ Coordinator.onSignal_of_refused h co now⟩

/-- A pool of three slots ignores a capacity of minus two, and the default coordinator ignores a
signal of a kind it does not know. -/
theorem negative_capacity_and_unknown_signal_ignored :
    (Books.fresh ⟨3, 10, Span.ofSeconds 600, Span.ofSeconds 30⟩).updateCapacity
        ⟨3, 10, Span.ofSeconds 600, Span.ofSeconds 30⟩ (-2) ⟨1772366400, 0⟩ =
      (Books.fresh ⟨3, 10, Span.ofSeconds 600, Span.ofSeconds 30⟩,
        ⟨3, 10, Span.ofSeconds 600, Span.ofSeconds 30⟩, []) ∧
    Coordinator.Refused ⟨"Ping", .null, ⟨1772366400, 0⟩⟩ ∧
    (Coordinator.start ⟨Config.default, none⟩).onSignal ⟨"Ping", .null, ⟨1772366400, 0⟩⟩
        ⟨1772366400, 0⟩ =
      (Coordinator.start ⟨Config.default, none⟩, []) :=
  have hping : Coordinator.Refused ⟨"Ping", .null, ⟨1772366400, 0⟩⟩ := .unknown (by decide)
  ⟨leases_kept_unless_released.2.2.2.2.2.1 _ _ (-2) _ (by decide), hping,
    leases_kept_unless_released.2.2.2.2.2.2 _ _ _ hping⟩

end SlotKeeper.Pool
