import SlotKeeper.Pool.Books
import Mathlib.Data.List.Forall2

/-!
# Transitions of the pool's books

The six transitions of `Books` as one labelled step, `Op.apply`, which also reports the
configuration (only a capacity update changes it) and the responses sent, and `Op.run`, the
transitions of a list applied in order. Around them stand the facts that the accounting and the
answering theorems share:

* filing a lease under a key no lease is held under adds one entry, and erasing, touching or
  replacing never adds one;
* `Leases.Keyed`: every lease is filed under its holder's id, and granting, touching and erasing
  keep it so;
* `Books.assignFrom_queue`: the slot-granting loop pops a prefix of the queue and sends one
  response per popped request, each naming that request.
-/

namespace SlotKeeper.Pool

/-- A response answers a request when it carries the request's requester, run and request id. -/
def Request.AnsweredBy (r : Request) (resp : Response) : Prop :=
  resp.requester = r.requester ∧ resp.run = r.run ∧ resp.request = r.id

@[simp]
theorem Request.answeredBy_grant (r : Request) : r.AnsweredBy (Response.grant r) :=
  ⟨rfl, rfl, rfl⟩

@[simp]
theorem Request.answeredBy_reject (r : Request) (code message : String) :
    r.AnsweredBy (Response.reject r code message) :=
  ⟨rfl, rfl, rfl⟩

@[simp]
theorem Request.answeredBy_timedOut (r : Request) : r.AnsweredBy (Response.timedOut r) :=
  ⟨rfl, rfl, rfl⟩

@[simp]
theorem Lease.grant_requester (r : Request) (now : Instant) :
    (Lease.grant r now).requester = r.requester := rfl

@[simp]
theorem Lease.touch_requester (l : Lease) (now : Instant) : (l.touch now).requester = l.requester :=
  rfl

/-! ## The lease table -/

namespace Entries

theorem length_insert_of_lookup_eq_none {key : String} {lease : Lease} {es : Entries}
    (h : lookup key es = none) : (insert key lease es).length = es.length + 1 := by
  induction es with
  | nil => rfl
  | cons e rest ih =>
    obtain ⟨k, l⟩ := e
    have hk : k ≠ key := by
      intro hk
      simp [lookup, hk] at h
    have hrest : lookup key rest = none := by simpa [lookup, hk] using h
    by_cases hlt : key < k
    · simp [insert, hlt]
    · have hne : key ≠ k := fun h ↦ hk h.symm
      simp [insert, hlt, hne, ih hrest]

theorem length_modify (key : String) (f : Lease → Lease) (es : Entries) :
    (modify key f es).length = es.length := by
  induction es with
  | nil => rfl
  | cons e rest ih =>
    by_cases hk : e.1 = key
    · simp [modify, hk]
    · simp [modify, hk, ih]

theorem length_erase_le (key : String) (es : Entries) : (erase key es).length ≤ es.length := by
  induction es with
  | nil => exact Nat.le_refl _
  | cons e rest ih =>
    by_cases hk : e.1 = key
    · simp [erase, hk]
    · simp [erase, hk, ih]

theorem mem_insert {key : String} {lease : Lease} {es : Entries} {e : String × Lease}
    (h : e ∈ insert key lease es) : e = (key, lease) ∨ e ∈ es := by
  induction es with
  | nil => simpa [insert] using h
  | cons x rest ih =>
    obtain ⟨k, l⟩ := x
    simp only [insert] at h
    split_ifs at h with hlt heq
    · simpa using h
    · rcases List.mem_cons.mp h with h | h
      · exact .inl h
      · exact .inr (List.mem_cons_of_mem _ h)
    · rcases List.mem_cons.mp h with h | h
      · exact .inr (h ▸ List.mem_cons_self)
      · rcases ih h with h' | h'
        · exact .inl h'
        · exact .inr (List.mem_cons_of_mem _ h')

theorem mem_of_mem_erase {key : String} {es : Entries} {e : String × Lease}
    (h : e ∈ erase key es) : e ∈ es := by
  induction es with
  | nil => simp [erase] at h
  | cons x rest ih =>
    by_cases hk : x.1 = key
    · simp only [erase, hk, if_true] at h
      exact List.mem_cons_of_mem x h
    · simp only [erase, hk, if_false, List.mem_cons] at h
      rcases h with h | h
      · exact h ▸ List.mem_cons_self
      · exact List.mem_cons_of_mem x (ih h)

theorem mem_modify {key : String} {f : Lease → Lease} {es : Entries} {e : String × Lease}
    (h : e ∈ modify key f es) : e ∈ es ∨ ∃ l, (e.1, l) ∈ es ∧ e.2 = f l := by
  induction es with
  | nil => simp [modify] at h
  | cons x rest ih =>
    obtain ⟨k, l⟩ := x
    simp only [modify] at h
    split_ifs at h with hk
    · rcases List.mem_cons.mp h with rfl | h
      · exact .inr ⟨l, List.mem_cons_self, rfl⟩
      · exact .inl (List.mem_cons_of_mem _ h)
    · rcases List.mem_cons.mp h with rfl | h
      · exact .inl List.mem_cons_self
      · rcases ih h with h' | ⟨l', hl, he⟩
        · exact .inl (List.mem_cons_of_mem _ h')
        · exact .inr ⟨l', List.mem_cons_of_mem _ hl, he⟩

end Entries

namespace Leases

theorem contains_eq_false_iff {m : Leases} {key : String} :
    m.contains key = false ↔ Entries.lookup key m.entries = none := by
  simp [contains, find?]

theorem size_insert_of_contains_eq_false {m : Leases} {key : String} (lease : Lease)
    (h : m.contains key = false) : (m.insert key lease).size = m.size + 1 :=
  Entries.length_insert_of_lookup_eq_none (contains_eq_false_iff.mp h)

@[simp]
theorem size_modify (m : Leases) (key : String) (f : Lease → Lease) :
    (m.modify key f).size = m.size :=
  Entries.length_modify key f m.entries

theorem size_erase_le (m : Leases) (key : String) : (m.erase key).size ≤ m.size :=
  Entries.length_erase_le key m.entries

theorem size_foldl_erase_le (m : Leases) (keys : List String) :
    (keys.foldl erase m).size ≤ m.size := by
  induction keys generalizing m with
  | nil => exact Nat.le_refl _
  | cons k rest ih => exact Nat.le_trans (ih (m.erase k)) (size_erase_le m k)

/-- Every lease is filed under the id of its holder. -/
def Keyed (m : Leases) : Prop := ∀ e ∈ m.entries, e.2.requester = e.1

theorem keyed_empty : empty.Keyed := by
  intro e he
  simp [empty] at he

theorem Keyed.insert {m : Leases} {key : String} {lease : Lease} (h : m.Keyed)
    (hl : lease.requester = key) : (m.insert key lease).Keyed := by
  intro e he
  rcases Entries.mem_insert he with rfl | he
  · exact hl
  · exact h e he

theorem Keyed.erase {m : Leases} (h : m.Keyed) (key : String) : (m.erase key).Keyed :=
  fun e he ↦ h e (Entries.mem_of_mem_erase he)

theorem Keyed.modify {m : Leases} {f : Lease → Lease} (h : m.Keyed) (key : String)
    (hf : ∀ l, (f l).requester = l.requester) : (m.modify key f).Keyed := by
  intro e he
  rcases Entries.mem_modify he with he | ⟨l, hl, he⟩
  · exact h e he
  · rw [he, hf]
    exact h _ hl

theorem Keyed.foldl_erase {m : Leases} (h : m.Keyed) (keys : List String) :
    (keys.foldl Leases.erase m).Keyed := by
  induction keys generalizing m with
  | nil => exact h
  | cons k rest ih => exact ih (h.erase k)

end Leases

/-! ## Transitions as one step -/

/-- One call of a transition of the books, with its arguments. -/
inductive Op where
  | acquire (r : Request) (now : Instant)
  | release (requester : String) (now : Instant)
  | heartbeat (requester : String) (now : Instant)
  | updateCapacity (capacity : Int) (now : Instant)
  | expire (now : Instant)
  | assignSlots (now : Instant)

namespace Op

/-- Runs the transition: the books after it, the configuration after it, and the responses sent
(for an acquire, the response sent at once, if any). -/
def apply : Op → Books → Config → Books × Config × List Response
  | .acquire r now, b, c => ((b.acquire c r now).1, c, (b.acquire c r now).2.response?.toList)
  | .release requester now, b, c => ((b.release c requester now).1, c, (b.release c requester now).2)
  | .heartbeat requester now, b, c => ((b.heartbeat requester now).1, c, [])
  | .updateCapacity capacity now, b, c => b.updateCapacity c capacity now
  | .expire now, b, c => ((b.expire c now).1, c, (b.expire c now).2)
  | .assignSlots now, b, c => ((b.assignSlots now).1, c, (b.assignSlots now).2)

/-- The request a transition brings in: an acquire's, and none for the others. -/
def asked : Op → List Request
  | .acquire r _ => [r]
  | _ => []

/-- Runs transitions in order: the final books and configuration, and every response sent. -/
def run : List Op → Books → Config → Books × Config × List Response
  | [], b, c => (b, c, [])
  | op :: ops, b, c =>
    let s := op.apply b c
    let t := run ops s.1 s.2.1
    (t.1, t.2.1, s.2.2 ++ t.2.2)

end Op

/-! ## The transitions that end by granting slots

`release`, `updateCapacity` and `expire` each bring the books into a state of their own and then
run `assignSlots`; these equations name that state, so that later proofs never unfold the
transitions themselves. -/

/-- The configuration after a capacity update to a positive value. -/
def Config.resized (c : Config) (capacity : Int) : Config := { c with capacity := capacity.toNat }

namespace Books

/-- The books a release hands to the slot-granting loop. -/
def released (b : Books) (c : Config) (requester : String) : Books :=
  if b.leases.contains requester then ({ b with leases := b.leases.erase requester } : Books).reconcile c
  else b

theorem release_eq (b : Books) (c : Config) (requester : String) (now : Instant) :
    b.release c requester now = (b.released c requester).assignSlots now := rfl

/-- A release leaves the queue to the slot-granting loop as it was. -/
theorem released_queue (b : Books) (c : Config) (requester : String) :
    (b.released c requester).queue = b.queue := by
  unfold released
  split <;> rfl

theorem updateCapacity_of_nonpos (b : Books) (c : Config) {capacity : Int} (now : Instant)
    (h : capacity ≤ 0) : b.updateCapacity c capacity now = (b, c, []) := by
  rw [updateCapacity, if_pos h]

theorem updateCapacity_of_pos (b : Books) (c : Config) {capacity : Int} (now : Instant)
    (h : 0 < capacity) :
    b.updateCapacity c capacity now =
      (((b.reconcile (c.resized capacity)).assignSlots now).1, c.resized capacity,
        ((b.reconcile (c.resized capacity)).assignSlots now).2) := by
  rw [updateCapacity, if_neg (Int.not_le.mpr h)]
  rfl

/-- The books the timer sweep hands to the slot-granting loop: silent leases reclaimed, the free
count recomputed if any was, and timed-out requests taken out of the queue. -/
def swept (b : Books) (c : Config) (now : Instant) : Books :=
  let leases := (b.silent c now).foldl Leases.erase b.leases
  ⟨if (b.silent c now).isEmpty then b.available else c.capacity - leases.size,
    b.queue.filter fun r => !r.timedOut now, leases⟩

/-- The sweep recounts the free slots only when it reclaimed a lease. -/
theorem swept_available (b : Books) (c : Config) (now : Instant) :
    (b.swept c now).available =
      if (b.silent c now).isEmpty then b.available else c.capacity - (b.swept c now).leases.size :=
  rfl

theorem expire_eq (b : Books) (c : Config) (now : Instant) :
    b.expire c now = (((b.swept c now).assignSlots now).1,
      (b.queue.filter (·.timedOut now)).map Response.timedOut ++
        ((b.swept c now).assignSlots now).2) := by
  unfold expire swept
  by_cases h : (b.silent c now).isEmpty = true
  · simp only [h, if_true]
  · simp only [h]
    rfl

/-! ## The slot-granting loop -/

/-- The loop pops a prefix of the queue, answering each popped request in order. -/
theorem assignFrom_queue (now : Instant) (free : Nat) (queue : List Request) (leases : Leases) :
    ∃ served, queue = served ++ (assignFrom now free queue leases).1.queue ∧
      List.Forall₂ Request.AnsweredBy served (assignFrom now free queue leases).2 := by
  fun_induction assignFrom now free queue leases with
  | case1 queue leases => exact ⟨[], rfl, .nil⟩
  | case2 free leases => exact ⟨[], rfl, .nil⟩
  | case3 free r queue leases _ b out hrec ih
  | case4 free r queue leases _ _ b out hrec ih
  | case5 free r queue leases _ _ b out hrec ih =>
    rw [hrec] at ih
    obtain ⟨served, hq, hs⟩ := ih
    refine ⟨r :: served, by rw [hq]; rfl, .cons (by simp) hs⟩

end Books

end SlotKeeper.Pool
