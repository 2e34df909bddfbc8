import SlotKeeper.Proofs.Pool.Holdings
import Mathlib.Data.Finset.Card

/-!
# Draining the queue in order

Waiting requests leave the queue head first. The slot-granting loop pops a prefix of the queue and
answers each popped request by its clock alone (`Request.answerAt`): one that waited its whole
timeout by `now` (elapsed time at least the timeout) is rejected with `PoolTimeout`, any other is
granted. A timed-out head and a head whose requester already holds a lease take no slot; the loop
takes one slot per requester it leases anew (`Leases.newcomers`). The timer sweep first takes out
every timed-out request, wherever it waits, and rejects them in queue order.

`Drained` says what a transition does to the queue: the requests it answered and those left
waiting are the old queue as a multiset, each answered request is answered by its clock, and the
old queue splits into a front that holds, in order, every request granted and a back that holds,
in order, every request left waiting.

The main statement, `queue_drained_in_order`: for all books, the slot-granting loop, a release, a
capacity update and the sweep drain the queue so; after the sweep no request left waiting has
waited its whole timeout; and the loop takes exactly one slot per requester it leases anew.
-/

namespace SlotKeeper.Pool

/-! ## Answering by the clock -/

/-- How a request popped from the queue at `now` is answered: rejected once it waited its whole
timeout, granted otherwise. -/
def Request.answerAt (now : Instant) (r : Request) : Response :=
  if r.timedOut now then Response.timedOut r else Response.grant r

namespace Request

theorem timedOut_iff {r : Request} {now : Instant} :
    r.timedOut now = true ↔ r.timeout ≤ now.elapsedSince r.sentAt :=
  decide_eq_true_iff

theorem timedOut_eq_false_iff {r : Request} {now : Instant} :
    r.timedOut now = false ↔ now.elapsedSince r.sentAt < r.timeout := by
  rw [Bool.eq_false_iff, Ne, timedOut_iff]
  exact Nat.not_le

theorem answerAt_of_timedOut {r : Request} {now : Instant} (h : r.timedOut now = true) :
    r.answerAt now = Response.timedOut r := by
  rw [answerAt, if_pos h]

theorem answerAt_of_waiting {r : Request} {now : Instant} (h : r.timedOut now = false) :
    r.answerAt now = Response.grant r := by
  rw [answerAt, if_neg (by simp [h])]

/-- A popped request is granted exactly when it has not waited its whole timeout. -/
theorem answerAt_granted (r : Request) (now : Instant) :
    (r.answerAt now).granted = !r.timedOut now := by
  cases h : r.timedOut now
  · rw [answerAt_of_waiting h]
    rfl
  · rw [answerAt_of_timedOut h]
    rfl

/-- A popped request is rejected with `PoolTimeout` exactly when it waited its whole timeout. -/
theorem answerAt_code (r : Request) (now : Instant) :
    (r.answerAt now).code = some timeoutCode ↔ r.timedOut now = true := by
  cases h : r.timedOut now
  · rw [answerAt_of_waiting h]
    simp [Response.grant]
  · rw [answerAt_of_timedOut h]
    simp [Response.timedOut, Response.reject]

end Request

/-! ## Slots taken by the loop -/

namespace Leases

theorem contains_insert (m : Leases) (key k : String) (lease : Lease) :
    (m.insert key lease).contains k = (decide (k = key) || m.contains k) := by
  unfold contains
  rw [find?_insert]
  by_cases hk : k = key <;> simp [hk]

theorem contains_modify (m : Leases) (key k : String) (f : Lease → Lease) :
    (m.modify key f).contains k = m.contains k := by
  unfold contains
  rw [find?_modify]
  by_cases hk : k = key <;> simp [hk]

/-- The ids that answering `served` at `now` leases anew: the requesters of those not timed out
that hold no lease in `m`, each once. -/
def newcomers (m : Leases) (now : Instant) (served : List Request) : Finset String :=
  ((served.filter fun r => !r.timedOut now).map (·.requester)).toFinset.filter
    fun k => m.contains k = false

/-- A request adds its requester when it is not timed out and its requester holds no lease. -/
theorem newcomers_cons (m : Leases) (now : Instant) (r : Request) (rs : List Request) :
    m.newcomers now (r :: rs) =
      if r.timedOut now = false ∧ m.contains r.requester = false then
        Insert.insert r.requester (m.newcomers now rs)
      else m.newcomers now rs := by
  unfold newcomers
  cases ht : r.timedOut now <;> cases hc : m.contains r.requester <;>
    simp [ht, hc, Finset.filter_insert]

theorem newcomers_congr {m m' : Leases} (now : Instant) (rs : List Request)
    (h : ∀ k, m'.contains k = m.contains k) : m'.newcomers now rs = m.newcomers now rs := by
  simp only [newcomers, h]

/-- Once `key` holds a lease, it is no one's to lease anew. -/
theorem newcomers_insert (m : Leases) (key : String) (lease : Lease) (now : Instant)
    (rs : List Request) :
    (m.insert key lease).newcomers now rs = (m.newcomers now rs).erase key := by
  ext k
  by_cases hk : k = key <;> simp [newcomers, contains_insert, hk]

/-- A request not timed out whose requester holds no lease leases that id, which the rest then
finds held. -/
theorem card_newcomers_cons_fresh {m : Leases} {now : Instant} {r : Request} (rs : List Request)
    (lease : Lease) (ht : r.timedOut now = false) (hfresh : m.contains r.requester = false) :
    (m.newcomers now (r :: rs)).card =
      ((m.insert r.requester lease).newcomers now rs).card + 1 := by
  rw [newcomers_cons, if_pos ⟨ht, hfresh⟩, newcomers_insert]
  -- the requester may also stand further back; it is counted once either way
  by_cases hlater : r.requester ∈ m.newcomers now rs
  · rw [Finset.insert_eq_of_mem hlater, Finset.card_erase_add_one hlater]
  · rw [Finset.card_insert_of_notMem hlater, Finset.erase_eq_of_notMem hlater]

end Leases

namespace Books

/-- One run of the slot-granting loop answers a prefix of the queue by the clock, in order, leaves
the rest waiting, and takes one slot per requester it leases anew. -/
theorem assignFrom_serves (now : Instant) (free : Nat) (queue : List Request) (leases : Leases) :
    ∃ served, queue = served ++ (assignFrom now free queue leases).1.queue ∧
      (assignFrom now free queue leases).2 = served.map (Request.answerAt now) ∧
      free = (assignFrom now free queue leases).1.available +
        (leases.newcomers now served).card := by
  fun_induction assignFrom now free queue leases with
  | case1 queue leases => exact ⟨[], rfl, rfl, rfl⟩
  | case2 free leases => exact ⟨[], rfl, rfl, rfl⟩
  | case3 free r queue leases hlate b out hrec ih =>
    rw [hrec] at ih
    obtain ⟨served, hq, hout, hfree⟩ := ih
    dsimp only at hq hout hfree ⊢
    refine ⟨r :: served, by rw [hq]; rfl, ?_, ?_⟩
    · rw [hout, List.map_cons, Request.answerAt_of_timedOut hlate]
    · rw [Leases.newcomers_cons, if_neg (by simp [hlate])]
      exact hfree
  | case4 free r queue leases hlate hheld b out hrec ih =>
    rw [hrec] at ih
    obtain ⟨served, hq, hout, hfree⟩ := ih
    dsimp only at hq hout hfree ⊢
    rw [Leases.newcomers_congr now served fun k ↦ Leases.contains_modify _ _ k _] at hfree
    refine ⟨r :: served, by rw [hq]; rfl, ?_, ?_⟩
    · rw [hout, List.map_cons, Request.answerAt_of_waiting (eq_false_of_ne_true hlate)]
    · rw [Leases.newcomers_cons, if_neg (by simp [hheld])]
      exact hfree
  | case5 free r queue leases hlate hheld b out hrec ih =>
    rw [hrec] at ih
    obtain ⟨served, hq, hout, hfree⟩ := ih
    dsimp only at hq hout hfree ⊢
    refine ⟨r :: served, by rw [hq]; rfl, ?_, ?_⟩
    · rw [hout, List.map_cons, Request.answerAt_of_waiting (eq_false_of_ne_true hlate)]
    · rw [Leases.card_newcomers_cons_fresh _ (Lease.grant r now) (eq_false_of_ne_true hlate)
        (eq_false_of_ne_true hheld)]
      omega

/-- With one slot free half a minute after noon, a head that waited only ten seconds is rejected
without the slot, which goes to the request behind it. -/
example :
    let q : List Request :=
      [⟨"wf-2", "wf-2-run", "wf-2-req", ⟨1772366400, 0⟩, Span.ofSeconds 10, 0⟩,
        ⟨"wf-3", "wf-3-run", "wf-3-req", ⟨1772366400, 0⟩, Span.ofSeconds 3600, 0⟩]
    let drained := assignSlots ⟨1, q, Leases.empty⟩ ⟨1772366430, 0⟩
    drained.2.map (·.granted) = [false, true] ∧ drained.1.available = 0 := by
  decide

end Books

/-! ## Draining -/

/-- What a transition does to the queue `before`, leaving `after` and sending `out`: the requests
it answered, each by its clock and in the order of `out`, are with those left waiting the old
queue as a multiset, and the old queue splits into a front holding, in order, every request
granted and a back holding, in order, every request left waiting. -/
def Drained (now : Instant) (before after : List Request) (out : List Response) : Prop :=
  ∃ answered front back, (answered ++ after).Perm before ∧
    out = answered.map (Request.answerAt now) ∧ before = front ++ back ∧
    (answered.filter fun r => !r.timedOut now).Sublist front ∧ after.Sublist back

namespace Drained

/-- Answering a prefix of the queue by the clock drains it. -/
theorem of_prefix {now : Instant} {before after served : List Request} {out : List Response}
    (hq : before = served ++ after) (hout : out = served.map (Request.answerAt now)) :
    Drained now before after out :=
  ⟨served, served, after, hq ▸ List.Perm.refl _, hout, hq, List.filter_sublist,
    List.Sublist.refl _⟩

theorem refl (now : Instant) (q : List Request) : Drained now q q [] :=
  of_prefix (List.nil_append q).symm rfl

/-- Rejecting the timed-out requests wherever they wait, in queue order, and then answering a
prefix of the rest by the clock drains the queue. -/
theorem of_sweep {now : Instant} {before after served : List Request} {out : List Response}
    (hkept : before.filter (fun r ↦ !r.timedOut now) = served ++ after)
    (hout : out = (before.filter (·.timedOut now)).map Response.timedOut ++
      served.map (Request.answerAt now)) :
    Drained now before after out := by
  -- the front of the old queue holds what was popped, the back what was left
  obtain ⟨front, back, hsplit, hfront, hback⟩ := List.filter_eq_append_iff.mp hkept
  have hlateAnswers : (before.filter (·.timedOut now)).map Response.timedOut =
      (before.filter (·.timedOut now)).map (Request.answerAt now) :=
    List.map_congr_left fun r hr ↦
      (Request.answerAt_of_timedOut (List.mem_filter.mp hr).2).symm
  have hlateGranted : (before.filter (·.timedOut now)).filter (fun r ↦ !r.timedOut now) = [] :=
    List.filter_eq_nil_iff.mpr fun r hr ↦ by simp [(List.mem_filter.mp hr).2]
  refine ⟨before.filter (·.timedOut now) ++ served, front, back, ?_, ?_, hsplit, ?_,
    hback ▸ List.filter_sublist⟩
  · calc before.filter (·.timedOut now) ++ served ++ after
        = before.filter (·.timedOut now) ++ before.filter (fun r ↦ !r.timedOut now) := by
          rw [hkept, List.append_assoc]
      List.Perm _ before := List.filter_append_perm _ _
  · rw [hout, List.map_append, hlateAnswers]
  · rw [List.filter_append, hlateGranted, List.nil_append]
    exact List.filter_sublist.trans (hfront ▸ List.filter_sublist)

end Drained

namespace Books

theorem assignSlots_drained (b : Books) (now : Instant) :
    Drained now b.queue (b.assignSlots now).1.queue (b.assignSlots now).2 := by
  obtain ⟨served, hq, hout, -⟩ := assignFrom_serves now b.available b.queue b.leases
  exact Drained.of_prefix hq hout

theorem release_drained (b : Books) (c : Config) (requester : String) (now : Instant) :
    Drained now b.queue (b.release c requester now).1.queue (b.release c requester now).2 := by
  rw [release_eq, ← released_queue b c requester]
  exact assignSlots_drained _ now

theorem updateCapacity_drained (b : Books) (c : Config) (capacity : Int) (now : Instant) :
    Drained now b.queue (b.updateCapacity c capacity now).1.queue
      (b.updateCapacity c capacity now).2.2 := by
  by_cases hpos : 0 < capacity
  · rw [updateCapacity_of_pos b c now hpos]
    exact assignSlots_drained (b.reconcile (c.resized capacity)) now
  · rw [updateCapacity_of_nonpos b c now (Int.not_lt.mp hpos)]
    exact Drained.refl now b.queue

/-- The sweep leaves waiting only requests that have not waited their whole timeout. -/
theorem expire_waiting {b : Books} {c : Config} {now : Instant} {r : Request}
    (hr : r ∈ (b.expire c now).1.queue) : r.timedOut now = false := by
  obtain ⟨served, hq, -, -⟩ := assignFrom_serves now (b.swept c now).available
    (b.swept c now).queue (b.swept c now).leases
  rw [expire_eq] at hr
  have hkept : r ∈ (b.swept c now).queue := hq ▸ List.mem_append_right served hr
  simpa using (List.mem_filter.mp hkept).2

/-- The sweep rejects the timed-out requests, wherever they wait, then drains the rest head
first. -/
theorem expire_drained (b : Books) (c : Config) (now : Instant) :
    Drained now b.queue (b.expire c now).1.queue (b.expire c now).2 := by
  obtain ⟨served, hq, hout, -⟩ := assignFrom_serves now (b.swept c now).available
    (b.swept c now).queue (b.swept c now).leases
  rw [expire_eq]
  exact Drained.of_sweep hq (congrArg _ hout)

end Books

/-- The queue is drained head first and by the clock: the slot-granting loop, a release, a
capacity update and the sweep each answer every request they take out by its clock, grant only
requests ahead of all that keep waiting and keep those in their order; after the sweep none left
waiting has waited its whole timeout; and the loop takes one slot per requester it leases anew, so
a timed-out head or a head whose requester holds a lease takes none. -/
theorem queue_drained_in_order :
    (∀ (b : Books) (now : Instant),
      Drained now b.queue (b.assignSlots now).1.queue (b.assignSlots now).2) ∧
    (∀ (b : Books) (c : Config) (requester : String) (now : Instant),
      Drained now b.queue (b.release c requester now).1.queue (b.release c requester now).2) ∧
    (∀ (b : Books) (c : Config) (capacity : Int) (now : Instant),
      Drained now b.queue (b.updateCapacity c capacity now).1.queue
        (b.updateCapacity c capacity now).2.2) ∧
    (∀ (b : Books) (c : Config) (now : Instant),
      Drained now b.queue (b.expire c now).1.queue (b.expire c now).2 ∧
        ∀ r ∈ (b.expire c now).1.queue, now.elapsedSince r.sentAt < r.timeout) ∧
    (∀ (now : Instant) (r : Request),
      ((r.answerAt now).granted = true ↔ now.elapsedSince r.sentAt < r.timeout) ∧
      ((r.answerAt now).code = some timeoutCode ↔ r.timeout ≤ now.elapsedSince r.sentAt)) ∧
    (∀ (b : Books) (now : Instant), ∃ served,
      b.queue = served ++ (b.assignSlots now).1.queue ∧
      (b.assignSlots now).2 = served.map (Request.answerAt now) ∧
      b.available = (b.assignSlots now).1.available + (b.leases.newcomers now served).card) := by
  refine ⟨Books.assignSlots_drained, Books.release_drained, Books.updateCapacity_drained,
    fun b c now ↦ ⟨b.expire_drained c now, fun r hr ↦ ?_⟩, fun now r ↦ ⟨?_, ?_⟩,
    fun b now ↦ Books.assignFrom_serves now b.available b.queue b.leases⟩
  · exact Request.timedOut_eq_false_iff.mp (Books.expire_waiting hr)
  · rw [Request.answerAt_granted, Bool.not_eq_true', Request.timedOut_eq_false_iff]
  · rw [Request.answerAt_code, Request.timedOut_iff]

end SlotKeeper.Pool
