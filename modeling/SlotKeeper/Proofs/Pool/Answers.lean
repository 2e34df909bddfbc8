import SlotKeeper.Proofs.Pool.Transitions

/-!
# Every request is answered once

A transition takes a request out of the queue only by answering it, and answers nothing else:
the requests waiting before it, with the one an acquire brings in, are exactly those it
answered (one response each, in the order of its responses, each naming the request's
requester, run and request id) and those waiting after it. `Settled` says this of a queue before,
the requests brought in, the queue after and the responses.

The main statement, `answered_exactly_once`, holds for all books: an acquire answers its request
at once and leaves the queue alone, or queues it at the end, at the position the old length
gives, without an answer; a heartbeat never touches the queue; every transition settles its
requests; and so does every run of transitions, so that the requests waiting at the start and
those passed to acquire are, as a multiset, those answered and those still waiting, and no
request is answered twice.
-/

namespace SlotKeeper.Pool

/-- `out` answers, one response each and in order, requests that together with the queue
`after` are, as a multiset, the queue `before` and the requests brought in. -/
def Settled (before asked after : List Request) (out : List Response) : Prop :=
  ∃ served, (before ++ asked).Perm (served ++ after) ∧ List.Forall₂ Request.AnsweredBy served out

namespace Settled

theorem of_eq {before after : List Request} {out : List Response} {served : List Request}
    (hq : before = served ++ after) (hs : List.Forall₂ Request.AnsweredBy served out) :
    Settled before [] after out :=
  ⟨served, by rw [List.append_nil, hq], hs⟩

theorem refl (q : List Request) : Settled q [] q [] :=
  ⟨[], by rw [List.append_nil, List.nil_append], .nil⟩

/-- Two transitions in a row settle what they brought in together. -/
theorem trans {q₀ q₁ q₂ a₁ a₂ : List Request} {out₁ out₂ : List Response}
    (h₁ : Settled q₀ a₁ q₁ out₁) (h₂ : Settled q₁ a₂ q₂ out₂) :
    Settled q₀ (a₁ ++ a₂) q₂ (out₁ ++ out₂) := by
  obtain ⟨s₁, hp₁, hf₁⟩ := h₁
  obtain ⟨s₂, hp₂, hf₂⟩ := h₂
  refine ⟨s₁ ++ s₂, ?_, List.rel_append hf₁ hf₂⟩
  calc q₀ ++ (a₁ ++ a₂)
      = (q₀ ++ a₁) ++ a₂ := (List.append_assoc _ _ _).symm
    List.Perm _ ((s₁ ++ q₁) ++ a₂) := hp₁.append_right a₂
    _ = s₁ ++ (q₁ ++ a₂) := List.append_assoc _ _ _
    List.Perm _ (s₁ ++ (s₂ ++ q₂)) := hp₂.append_left s₁
    _ = (s₁ ++ s₂) ++ q₂ := (List.append_assoc _ _ _).symm

end Settled

namespace Books

theorem assignSlots_settled (b : Books) (now : Instant) :
    Settled b.queue [] (b.assignSlots now).1.queue (b.assignSlots now).2 := by
  obtain ⟨served, hq, hs⟩ := assignFrom_queue now b.available b.queue b.leases
  exact Settled.of_eq hq hs

/-- An acquire answers its request at once, leaving the queue as it was, or queues it last
without an answer, at the position the old length gives. -/
theorem acquire_answers_or_queues (b : Books) (c : Config) (r : Request) (now : Instant) :
    (∃ resp, (b.acquire c r now).2.response? = some resp ∧ r.AnsweredBy resp ∧
      (b.acquire c r now).1.queue = b.queue) ∨
    ((b.acquire c r now).2 = .queued b.queue.length ∧
      (b.acquire c r now).1.queue = b.queue ++ [r]) := by
  unfold acquire
  by_cases hheld : b.leases.contains r.requester = true
  · rw [if_pos hheld]
    exact .inl ⟨Response.grant r, rfl, Request.answeredBy_grant r, rfl⟩
  rw [if_neg hheld]
  by_cases hfree : b.available > 0
  · rw [if_pos hfree]
    exact .inl ⟨Response.grant r, rfl, Request.answeredBy_grant r, rfl⟩
  rw [if_neg hfree]
  by_cases hfull : b.queue.length ≥ c.queueDepth
  · rw [if_pos hfull]
    exact .inl ⟨_, rfl, Request.answeredBy_reject _ _ _, rfl⟩
  · rw [if_neg hfull]
    exact .inr ⟨rfl, rfl⟩

theorem acquire_settled (b : Books) (c : Config) (r : Request) (now : Instant) :
    Settled b.queue [r] (b.acquire c r now).1.queue (b.acquire c r now).2.response?.toList := by
  rcases acquire_answers_or_queues b c r now with ⟨resp, hresp, hr, hq⟩ | ⟨hadm, hq⟩
  · -- answered at once: the request joins those served
    rw [hresp, hq]
    exact ⟨[r], List.perm_append_comm, .cons hr .nil⟩
  · rw [hadm, hq]
    exact ⟨[], List.Perm.refl _, .nil⟩

theorem heartbeat_queue (b : Books) (requester : String) (now : Instant) :
    (b.heartbeat requester now).1.queue = b.queue := by
  unfold heartbeat
  split <;> rfl

theorem release_settled (b : Books) (c : Config) (requester : String) (now : Instant) :
    Settled b.queue [] (b.release c requester now).1.queue (b.release c requester now).2 := by
  rw [release_eq, ← released_queue b c requester]
  exact assignSlots_settled _ now

theorem updateCapacity_settled (b : Books) (c : Config) (capacity : Int) (now : Instant) :
    Settled b.queue [] (b.updateCapacity c capacity now).1.queue
      (b.updateCapacity c capacity now).2.2 := by
  by_cases hpos : 0 < capacity
  · rw [updateCapacity_of_pos b c now hpos]
    exact assignSlots_settled (b.reconcile (c.resized capacity)) now
  · rw [updateCapacity_of_nonpos b c now (Int.not_lt.mp hpos)]
    exact Settled.refl b.queue

/-- The sweep answers the timed-out requests, wherever they wait, then those `assignSlots` pops. -/
theorem expire_settled (b : Books) (c : Config) (now : Instant) :
    Settled b.queue [] (b.expire c now).1.queue (b.expire c now).2 := by
  obtain ⟨served, hp, hs⟩ := assignSlots_settled (b.swept c now) now
  have hkept : (b.swept c now).queue = b.queue.filter fun r ↦ !r.timedOut now := rfl
  have hlate : List.Forall₂ Request.AnsweredBy (b.queue.filter (·.timedOut now))
      ((b.queue.filter (·.timedOut now)).map Response.timedOut) := by
    rw [List.forall₂_map_right_iff, List.forall₂_same]
    intro r _
    exact Request.answeredBy_timedOut r
  rw [expire_eq]
  refine ⟨b.queue.filter (·.timedOut now) ++ served, ?_, List.rel_append hlate hs⟩
  rw [List.append_nil] at hp ⊢
  dsimp only
  calc List.Perm b.queue
        (b.queue.filter (·.timedOut now) ++ b.queue.filter (fun r ↦ !r.timedOut now)) :=
        (List.filter_append_perm _ _).symm
    List.Perm _
        (b.queue.filter (·.timedOut now) ++ (served ++ ((b.swept c now).assignSlots now).1.queue)) :=
        (hkept ▸ hp).append_left _
    _ = (b.queue.filter (·.timedOut now) ++ served) ++ ((b.swept c now).assignSlots now).1.queue :=
        (List.append_assoc _ _ _).symm

end Books

namespace Op

/-- Every transition settles the requests waiting before it and the one it brings in. -/
theorem apply_settled (op : Op) (b : Books) (c : Config) :
    Settled b.queue op.asked (op.apply b c).1.queue (op.apply b c).2.2 := by
  cases op with
  | acquire r now => exact b.acquire_settled c r now
  | release requester now => exact b.release_settled c requester now
  | heartbeat requester now =>
    show Settled b.queue [] (b.heartbeat requester now).1.queue []
    rw [b.heartbeat_queue requester now]
    exact Settled.refl b.queue
  | updateCapacity capacity now => exact b.updateCapacity_settled c capacity now
  | expire now => exact b.expire_settled c now
  | assignSlots now => exact b.assignSlots_settled now

/-- A run settles the requests waiting at its start and every request passed to an acquire. -/
theorem run_settled (ops : List Op) (b : Books) (c : Config) :
    Settled b.queue (ops.flatMap asked) (run ops b c).1.queue (run ops b c).2.2 := by
  induction ops generalizing b c with
  | nil => exact Settled.refl b.queue
  | cons op ops ih =>
    rw [List.flatMap_cons]
    exact (op.apply_settled b c).trans (ih (op.apply b c).1 (op.apply b c).2.1)

end Op

/-- Every queued request is answered exactly once: an acquire answers at once or queues at the
end; a heartbeat leaves the queue alone; each transition, and each run of transitions, answers
exactly the requests it takes out of the queue, one response each naming its request. -/
theorem answered_exactly_once :
    (∀ (b : Books) (c : Config) (r : Request) (now : Instant),
      (∃ resp, (b.acquire c r now).2.response? = some resp ∧ r.AnsweredBy resp ∧
        (b.acquire c r now).1.queue = b.queue) ∨
      ((b.acquire c r now).2 = .queued b.queue.length ∧
        (b.acquire c r now).1.queue = b.queue ++ [r])) ∧
    (∀ (b : Books) (requester : String) (now : Instant),
      (b.heartbeat requester now).1.queue = b.queue) ∧
    (∀ (op : Op) (b : Books) (c : Config),
      Settled b.queue op.asked (op.apply b c).1.queue (op.apply b c).2.2) ∧
    (∀ (ops : List Op) (b : Books) (c : Config),
      Settled b.queue (ops.flatMap Op.asked) (Op.run ops b c).1.queue (Op.run ops b c).2.2) :=
  ⟨Books.acquire_answers_or_queues, Books.heartbeat_queue, Op.apply_settled, Op.run_settled⟩

end SlotKeeper.Pool
