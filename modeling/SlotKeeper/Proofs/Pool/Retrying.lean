import SlotKeeper.Proofs.Pool.Acquire
import SlotKeeper.Proofs.Backoff.Policy

/-!
# Acquiring with retries

An acquisition with a retry policy makes tries numbered from one. A try mints a request id and
sends the request; a refused send fails the try at once, and otherwise the try waits for the
answer to its request. A grant ends the acquisition with that response. A rejection, or the
closing of the client's mailbox, fails the try. After a failed try `k` the policy decides: with
tries left (`k` below the budget) and a fault worth retrying, the acquisition rests on the
client's clock for the policy's wait before try `k + 1` (a wait the policy cannot compute crashes
it), and tries again once the clock reaches the end of the rest; otherwise it ends with that
try's failure.

A rejection carries its code, `PoolRejected` when the response named none, and is never
retryable (`PoolError.ofRejection_code`, `PoolError.toFault_ofRejection`); the failures without a
code are retryable. So whatever the policy, a rejection ends the acquisition, while a delivery
failure or a closed mailbox is tried again while tries are left.

`Retrying` follows an acquisition from its first try through wake-ups in any worlds the rest of
the process leaves, counting the request ids it mints. `Budgeted` is what holds of it while it is
still going: its count of tries is the number of ids minted, at least one and at most the budget
(one when the budget is zero), and it rests only while tries are left, so the count never passes
the budget, a 32-bit number, when it goes up.

The main statement, `retries_as_policy_says`.
-/

namespace SlotKeeper.Pool

open Json Workflow Engine Backoff

/-! ### Rejections are final -/

namespace PoolError

/-- A rejection carries its code, `PoolRejected` when the response named none. -/
theorem ofRejection_code (code message : Option String) :
    (ofRejection code message).code = some (code.getD "PoolRejected") := by
  unfold ofRejection
  cases code with
  | none => rfl
  | some c =>
    dsimp only
    by_cases htimeout : c = timeoutCode
    · rw [if_pos htimeout, htimeout]
      rfl
    · rw [if_neg htimeout]
      by_cases hexhausted : c = exhaustedCode
      · rw [if_pos hexhausted, hexhausted]
        rfl
      · rw [if_neg hexhausted]
        rfl

/-- The fault of a failure carries the failure's code. -/
theorem toFault_code (e : PoolError) : e.toFault.code = e.code := by
  unfold toFault
  cases e.code <;> rfl

/-- The fault of a failure is retryable exactly when the failure has no code. -/
theorem toFault_retryable (e : PoolError) : e.toFault.retryable = e.code.isNone := by
  unfold toFault isRetryable
  cases e.code <;> rfl

/-- A rejection is not retryable, and its fault is a final one with the rejection's code. -/
theorem toFault_ofRejection (code message : Option String) :
    (ofRejection code message).isRetryable = false ∧
      (ofRejection code message).toFault.retryable = false ∧
      (ofRejection code message).toFault.code = some (code.getD "PoolRejected") := by
  refine ⟨?_, ?_, ?_⟩
  · simp [isRetryable, ofRejection_code]
  · simp [toFault_retryable, ofRejection_code]
  · rw [toFault_code, ofRejection_code]

/-- Whatever the policy, a rejection is not worth retrying. -/
theorem shouldRetry_ofRejection (p : Policy) (code message : Option String) :
    p.shouldRetry (ofRejection code message).toFault = false :=
  p.shouldRetry_eq_false_of_final (toFault_ofRejection code message).2.1

/-- Whatever the policy, a failure without a code is worth retrying. -/
theorem shouldRetry_of_code_none (p : Policy) {e : PoolError} (h : e.code = none) :
    p.shouldRetry e.toFault = true :=
  p.shouldRetry_of_codeless (by rw [toFault_retryable, h]; rfl) (by rw [toFault_code, h])

end PoolError

/-! ### One wake-up -/

/-- The request a try made in world `w` sends: the next minted id, stamped with the clock's
reading. -/
def Client.tryRequest (c : Client) (timeout : Span) (w : World) : Request :=
  ⟨c.requester, c.run, (requestId w.requests).render, w.clock.now, timeout, 0⟩

/-- What a policy makes of the failure `e` of try `a.attempt` at the instant `now`: with tries
left and a fault worth retrying, a rest on the clock until the wait before the next try has
passed (a crash when the wait cannot be computed); otherwise the failure itself. -/
def afterFailure (p : Policy) (a : Acquisition) (e : PoolError) (now : Instant) : Acquiring :=
  if a.attempt < p.maxAttempts ∧ p.shouldRetry e.toFault = true then
    match p.delayForAttempt (a.attempt + 1) with
    | .ok d => .going { a with phase := .resting (Instant.deadlineAfter now d) }
    | .error crash => .crashed crash
  else .done (.error e)

namespace Client

variable {c : Client} {a : Acquisition} {p : Policy}

/-- After a failed try the policy decides, reading the clock and changing nothing. -/
theorem retryAfter_run (hp : a.policy = some p) (e : PoolError) (w : World) :
    (retryAfter a e).run w = (afterFailure p a e w.clock.now, w) := by
  unfold retryAfter afterFailure
  rw [hp]
  dsimp only
  rw [Policy.nextDelay_eq]
  by_cases hgo : a.attempt < p.maxAttempts ∧ p.shouldRetry e.toFault = true
  · rw [if_pos hgo, if_pos hgo]
    cases p.delayForAttempt (a.attempt + 1) <;> rfl
  · rw [if_neg hgo, if_neg hgo]
    rfl

/-- A try mints a request id and sends its request; a send the bus refuses fails the try, and
otherwise the try waits for the answer. -/
theorem attempt_run (c : Client) (a : Acquisition) (w : World) :
    (c.attempt a).run w =
      let sent := w.bus.signal c.coordinator
        ⟨acquireSignal, (c.tryRequest a.timeout w).toJson, w.clock.now⟩
      let w' : World := { w with requests := w.requests + 1, bus := sent.1 }
      match sent.2 with
      | .ok () => (.going { a with phase := .awaiting (c.tryRequest a.timeout w) }, w')
      | .error e => (retryAfter a (.delivery e)).run w' := by
  unfold attempt send tryRequest
  simp only [StateT.run_bind, StateT.run_get, StateT.run_set, World.onBus_run, pure_bind,
    StateT.run_pure]
  dsimp only [bind]
  cases (w.bus.signal c.coordinator ⟨acquireSignal,
    (Request.mk c.requester c.run (requestId w.requests).render w.clock.now a.timeout 0).toJson,
    w.clock.now⟩).2 with
  | ok u => rfl
  | error e => rfl

/-- A rest wakes to the next try once the clock reaches its end, and otherwise keeps resting. -/
theorem poll_resting {deadline : Option Instant} (h : a.phase = .resting deadline) (w : World) :
    (c.poll a).run w =
      if w.clock.reached deadline then (c.attempt { a with attempt := a.attempt + 1 }).run w
      else (.going a, w) := by
  rw [poll, h]
  dsimp only
  simp only [StateT.run_bind, StateT.run_get, pure_bind]
  by_cases hr : w.clock.reached deadline = true
  · rw [if_pos hr, if_pos hr]
  · rw [if_neg hr, if_neg hr]
    rfl

/-- A wait takes the next item of the client's mailbox: a query is refused, the closing fails the
try, an answer to the request ends the acquisition with a grant or fails the try with the
rejection, and anything else is passed over. -/
theorem poll_awaiting_run {request : Request} (hphase : a.phase = .awaiting request) (w : World) :
    (c.poll a).run w =
      let taken := w.bus.next c.mailbox
      let w' : World := { w with bus := taken.1 }
      match taken.2 with
      | some (.query q) =>
        let refusal : Except QueryError Json :=
          .error (.rejected (Fault.final "pool client does not answer queries"))
        (.going a, { w' with bus := w'.bus.answer q.ticket refusal })
      | some .closed => (retryAfter a (.mailboxClosed c.requester)).run w'
      | some (.signal s) =>
        match answerTo? request s with
        | some r =>
          if r.granted then (.done (.ok r), w')
          else (retryAfter a (PoolError.ofRejection r.code r.message)).run w'
        | none => (.going a, w')
      | none => (.going a, w') := by
  rw [poll, hphase]
  dsimp only
  rw [StateT.run_bind, World.onBus_run]
  dsimp only [bind]
  rcases (w.bus.next c.mailbox).2 with _ | (q | s | _)
  · rfl
  · rfl
  · -- a signal: passed over unless it answers the request
    dsimp only
    unfold answerTo?
    by_cases hkind : s.isKind responseSignal = true
    · rw [if_neg (by simp [hkind]), if_pos hkind]
      cases decode Response.decoder s.payload with
      | error _ => rfl
      | ok r =>
        dsimp only
        by_cases hid : r.request = request.id
        · rw [if_neg (by simp [hid]), if_pos hid]
          dsimp only
          by_cases hg : r.granted = true
          · rw [if_pos hg, if_pos hg]
            rfl
          · rw [if_neg hg, if_neg hg]
        · rw [if_pos (by simp [hid]), if_neg hid]
          rfl
    · rw [if_pos (by simp [hkind]), if_neg hkind]
      rfl
  · rfl

/-! ### Tries counted -/

/-- A try mints a request id and sends on the bus; nothing else in the world changes. -/
theorem attempt_world (c : Client) (a : Acquisition) (w : World) :
    ((c.attempt a).run w).2 =
      { w with requests := w.requests + 1, bus := ((c.attempt a).run w).2.bus } := by
  rw [attempt_run]
  dsimp only
  split
  · rfl
  · rw [retryAfter_world]

/-- A wait takes from the bus, and perhaps answers a query there; nothing else changes. -/
theorem poll_awaiting_world {request : Request} (hphase : a.phase = .awaiting request)
    (w : World) : ((c.poll a).run w).2 = { w with bus := ((c.poll a).run w).2.bus } := by
  rw [poll_awaiting_run hphase]
  dsimp only
  split
  · rfl
  · rw [retryAfter_world]
  · split
    · split
      · rfl
      · rw [retryAfter_world]
    · rfl
  · rfl

/-- A try mints one request id, whatever becomes of it. -/
theorem attempt_requests (c : Client) (a : Acquisition) (w : World) :
    ((c.attempt a).run w).2.requests = w.requests + 1 := by
  rw [attempt_world]

/-- A wait mints nothing. -/
theorem poll_awaiting_requests {request : Request} (hphase : a.phase = .awaiting request)
    (w : World) : ((c.poll a).run w).2.requests = w.requests := by
  rw [poll_awaiting_world hphase]

end Client

/-! ### The budget of tries -/

/-- What holds of an acquisition still going after `n` tries: the policy and timeout it started
with, a count of tries equal to `n`, at least one and within the budget, and a rest only while
tries are left. -/
structure Budgeted (timeout : Span) (p : Policy) (a : Acquisition) (n : Nat) : Prop where
  policy : a.policy = some p
  timeout : a.timeout = timeout
  counted : a.attempt = n
  started : 1 ≤ n
  within : n ≤ max 1 p.maxAttempts
  rests : ∀ deadline, a.phase = .resting deadline → n < p.maxAttempts

variable {c : Client} {timeout : Span} {p : Policy}

/-- A failure leads to a rest only while tries are left, and the rest changes the phase alone. -/
theorem afterFailure_going {a a' : Acquisition} {e : PoolError} {now : Instant}
    (h : afterFailure p a e now = .going a') :
    a.attempt < p.maxAttempts ∧ ∃ deadline, a' = { a with phase := .resting deadline } := by
  unfold afterFailure at h
  by_cases hgo : a.attempt < p.maxAttempts ∧ p.shouldRetry e.toFault = true
  · rw [if_pos hgo] at h
    refine ⟨hgo.1, ?_⟩
    cases hd : p.delayForAttempt (a.attempt + 1) with
    | ok d =>
      rw [hd, Acquiring.going.injEq] at h
      exact ⟨_, h.symm⟩
    | error _ =>
      rw [hd] at h
      cases h
  · rw [if_neg hgo] at h
    cases h

/-- A failed try numbered within the budget that leads to a rest keeps the acquisition within
it. -/
theorem budgeted_afterFailure {a a' : Acquisition} {e : PoolError} {now : Instant}
    (hp : a.policy = some p) (ht : a.timeout = timeout) (h1 : 1 ≤ a.attempt)
    (hmax : a.attempt ≤ max 1 p.maxAttempts) (h : afterFailure p a e now = .going a') :
    Budgeted timeout p a' a.attempt := by
  obtain ⟨hleft, deadline, rfl⟩ := afterFailure_going h
  exact ⟨hp, ht, rfl, h1, hmax, fun _ _ ↦ hleft⟩

/-- A try numbered within the budget leaves the acquisition within it, waiting for its answer or
resting after a refused send. -/
theorem attempt_budgeted {a a' : Acquisition} {w : World} (hp : a.policy = some p)
    (ht : a.timeout = timeout) (h1 : 1 ≤ a.attempt) (hmax : a.attempt ≤ max 1 p.maxAttempts)
    (h : ((c.attempt a).run w).1 = .going a') : Budgeted timeout p a' a.attempt := by
  rw [Client.attempt_run] at h
  dsimp only at h
  split at h
  · -- the request went out: the try waits for its answer
    rw [Acquiring.going.injEq] at h
    subst h
    exact ⟨hp, ht, rfl, h1, hmax, fun _ hrest ↦ by cases hrest⟩
  · rw [Client.retryAfter_run hp] at h
    exact budgeted_afterFailure hp ht h1 hmax h

/-- A failed try of an acquisition within its budget that leads to a rest keeps it within. -/
theorem Budgeted.afterFailure {a a' : Acquisition} {n : Nat} {e : PoolError} {now : Instant}
    (hb : Budgeted timeout p a n) (h : afterFailure p a e now = .going a') :
    Budgeted timeout p a' n :=
  hb.counted ▸ budgeted_afterFailure hb.policy hb.timeout (hb.counted ▸ hb.started)
    (hb.counted ▸ hb.within) h

/-- A wake-up keeps an acquisition within its budget: a rest that ends makes the next try, which
the tries left allow, and a wait mints nothing. -/
theorem Budgeted.wake {a : Acquisition} {n : Nat} (hb : Budgeted timeout p a n) (w : World) :
    n + (((c.poll a).run w).2.requests - w.requests) ≤ max 1 p.maxAttempts ∧
      ∀ a', ((c.poll a).run w).1 = .going a' →
        Budgeted timeout p a' (n + (((c.poll a).run w).2.requests - w.requests)) := by
  cases hphase : a.phase with
  | resting deadline =>
    have hleft := hb.rests deadline hphase
    rw [Client.poll_resting hphase]
    by_cases hr : w.clock.reached deadline = true
    · -- the rest ends: try `n + 1`, which the tries left allow
      rw [if_pos hr, Client.attempt_requests, Nat.add_sub_cancel_left]
      refine ⟨by omega, fun a' h ↦ ?_⟩
      have hnext : ({ a with attempt := a.attempt + 1 } : Acquisition).attempt = n + 1 := by
        rw [← hb.counted]
      exact hnext ▸ attempt_budgeted hb.policy hb.timeout (by omega) (by omega) h
    · rw [if_neg hr]
      refine ⟨by simpa using hb.within, fun a' h ↦ ?_⟩
      rw [Acquiring.going.injEq] at h
      subst h
      simpa using hb
  | awaiting request =>
    rw [Client.poll_awaiting_requests hphase, Nat.sub_self, Nat.add_zero]
    refine ⟨hb.within, fun a' h ↦ ?_⟩
    rw [Client.poll_awaiting_run hphase] at h
    dsimp only at h
    split at h
    · rw [Acquiring.going.injEq] at h
      exact h ▸ hb
    · rw [Client.retryAfter_run hb.policy] at h
      exact hb.afterFailure h
    · split at h
      · split at h
        · cases h
        · rw [Client.retryAfter_run hb.policy] at h
          exact hb.afterFailure h
      · rw [Acquiring.going.injEq] at h
        exact h ▸ hb
    · rw [Acquiring.going.injEq] at h
      exact h ▸ hb

/-! ### Runs of an acquisition -/

/-- An acquisition with policy `p` by client `c`, asking for `timeout`, followed from its first
try through its wake-ups, each in whatever world the rest of the process left; `n` counts the
request ids it minted, one for each try. -/
inductive Retrying (c : Client) (timeout : Span) (p : Policy) : Acquiring → Nat → Prop
  | start (w : World) :
      Retrying c timeout p ((c.acquire timeout (some p)).run w).1
        (((c.acquire timeout (some p)).run w).2.requests - w.requests)
  | wake {a : Acquisition} {n : Nat} (h : Retrying c timeout p (.going a) n) (w : World) :
      Retrying c timeout p ((c.poll a).run w).1
        (n + (((c.poll a).run w).2.requests - w.requests))

/-- Along every run the tries made stay within the budget, and an acquisition still going is
within it. -/
theorem Retrying.budgeted {s : Acquiring} {n : Nat} (h : Retrying c timeout p s n) :
    n ≤ max 1 p.maxAttempts ∧ ∀ a, s = .going a → Budgeted timeout p a n := by
  induction h with
  | start w =>
    unfold Client.acquire
    rw [Client.attempt_requests, Nat.add_sub_cancel_left]
    exact ⟨by omega, fun a h ↦ attempt_budgeted rfl rfl (Nat.le_refl 1) (Nat.le_max_left 1 _) h⟩
  | wake _ w ih => exact (ih.2 _ rfl).wake w

/-- A failed try ends the acquisition with its failure exactly when no try is left or the fault
is not worth retrying. -/
theorem afterFailure_eq_done_iff (a : Acquisition) (e : PoolError) (now : Instant) :
    afterFailure p a e now = .done (.error e) ↔
      ¬(a.attempt < p.maxAttempts ∧ p.shouldRetry e.toFault = true) := by
  unfold afterFailure
  by_cases hgo : a.attempt < p.maxAttempts ∧ p.shouldRetry e.toFault = true
  · rw [if_pos hgo]
    refine ⟨fun h ↦ ?_, fun h ↦ absurd hgo h⟩
    split at h <;> cases h
  · rw [if_neg hgo]
    exact ⟨fun _ ↦ hgo, fun _ ↦ rfl⟩

/-- A failure never ends an acquisition with a response. -/
theorem afterFailure_ne_ok (a : Acquisition) (e : PoolError) (now : Instant) (r : Response) :
    afterFailure p a e now ≠ .done (.ok r) := by
  unfold afterFailure
  split
  · split <;> nofun
  · nofun

/-- A try never ends an acquisition with a response. -/
theorem attempt_ne_ok {a : Acquisition} (hp : a.policy = some p) (w : World) (r : Response) :
    ((c.attempt a).run w).1 ≠ .done (.ok r) := by
  rw [Client.attempt_run]
  dsimp only
  split
  · nofun
  · rw [Client.retryAfter_run hp]
    exact afterFailure_ne_ok a _ _ r

/-- Only a grant ends an acquisition with a response. -/
theorem Retrying.granted {r : Response} {n : Nat} (h : Retrying c timeout p (.done (.ok r)) n) :
    r.granted = true := by
  generalize hs : (Acquiring.done (.ok r) : Acquiring) = s at h
  induction h with
  | start w => exact absurd hs.symm (attempt_ne_ok rfl w r)
  | @wake a n hrun w _ =>
    have hb := hrun.budgeted.2 a rfl
    cases hphase : a.phase with
    | resting deadline =>
      rw [Client.poll_resting hphase] at hs
      by_cases hr : w.clock.reached deadline = true
      · rw [if_pos hr] at hs
        have hp : ({ a with attempt := a.attempt + 1 } : Acquisition).policy = some p := hb.policy
        exact absurd hs.symm (attempt_ne_ok hp w r)
      · rw [if_neg hr] at hs
        cases hs
    | awaiting request =>
      rw [Client.poll_awaiting_run hphase] at hs
      dsimp only at hs
      -- of all the items a wait can take, only a grant ends it with a response
      split at hs
      · cases hs
      · rw [Client.retryAfter_run hb.policy] at hs
        exact absurd hs.symm (afterFailure_ne_ok _ _ _ r)
      · split at hs
        · split at hs
          · next hg =>
            rw [Acquiring.done.injEq, Except.ok.injEq] at hs
            exact hs ▸ hg
          · rw [Client.retryAfter_run hb.policy] at hs
            exact absurd hs.symm (afterFailure_ne_ok _ _ _ r)
        · cases hs
      · cases hs

/-- The retry loop of an acquisition with policy `p`, as the policy says. -/
structure RetriesAsPolicySays (c : Client) (timeout : Span) (p : Policy) : Prop where
  /-- At most `max 1 budget` tries are made; an acquisition still going has counted them, and it
  rests only with a try left, so its count never passes the budget when it goes up. -/
  budget : ∀ s n, Retrying c timeout p s n → n ≤ max 1 p.maxAttempts ∧
    ∀ a, s = .going a → a.attempt = n ∧
      ∀ deadline, a.phase = .resting deadline → a.attempt + 1 ≤ p.maxAttempts
  /-- Each try sends one request under a fresh id, stamped now; a refused send fails the try. -/
  tries : ∀ a w, a.policy = some p →
    ((c.attempt a).run w).1 =
      match (w.bus.signal c.coordinator
          ⟨acquireSignal, (c.tryRequest a.timeout w).toJson, w.clock.now⟩).2 with
      | .ok () => .going { a with phase := .awaiting (c.tryRequest a.timeout w) }
      | .error e => afterFailure p a (.delivery e) w.clock.now
  /-- A grant answering the awaited request ends the acquisition with that response; a
  rejection, or the closing of the mailbox, fails the try; anything else is passed over. -/
  waits : ∀ a n request w, Retrying c timeout p (.going a) n → a.phase = .awaiting request →
    ((c.poll a).run w).1 =
      match (w.bus.next c.mailbox).2 with
      | some .closed => afterFailure p a (.mailboxClosed c.requester) w.clock.now
      | some (.signal s) =>
        match answerTo? request s with
        | some r =>
          if r.granted then .done (.ok r)
          else afterFailure p a (PoolError.ofRejection r.code r.message) w.clock.now
        | none => .going a
      | _ => .going a
  /-- A rest ends only once the client's clock reaches its end, with the next try. -/
  rests : ∀ a n deadline w, Retrying c timeout p (.going a) n → a.phase = .resting deadline →
    ((c.poll a).run w).1 =
      if w.clock.reached deadline then ((c.attempt { a with attempt := a.attempt + 1 }).run w).1
      else .going a
  /-- Only a grant ends an acquisition with a response. -/
  granted : ∀ n r, Retrying c timeout p (.done (.ok r)) n → r.granted = true
  /-- A rejection carries its code, `PoolRejected` when none was named, is not retryable, and
  becomes a final fault with that code: whatever the policy, it ends the acquisition. -/
  rejection : ∀ code message,
    (PoolError.ofRejection code message).code = some (code.getD "PoolRejected") ∧
    (PoolError.ofRejection code message).isRetryable = false ∧
    (PoolError.ofRejection code message).toFault.retryable = false ∧
    (PoolError.ofRejection code message).toFault.code = some (code.getD "PoolRejected") ∧
    ∀ a now, afterFailure p a (PoolError.ofRejection code message) now =
      .done (.error (PoolError.ofRejection code message))
  /-- A failure without a code is retryable, and ends the acquisition only when no try is left. -/
  codeless : ∀ e, e.code = none → e.isRetryable = true ∧
    ∀ a now, afterFailure p a e now = .done (.error e) ↔ p.maxAttempts ≤ a.attempt

/-- Every acquisition with a retry policy runs its tries as the policy says: at most the budget of
tries (one when the budget is zero), the first grant returned, a failed try retried exactly when
tries are left and its fault is worth retrying, after a rest on the client's clock for the
policy's wait, and a rejection never retried. -/
theorem retries_as_policy_says (c : Client) (timeout : Span) (p : Policy) :
    RetriesAsPolicySays c timeout p where
  budget s n h := by
    refine ⟨h.budgeted.1, fun a hs ↦ ?_⟩
    have hb := h.budgeted.2 a hs
    refine ⟨hb.counted, fun deadline hrest ↦ ?_⟩
    have hleft := hb.rests deadline hrest
    rw [hb.counted]
    omega
  tries a w hp := by
    rw [Client.attempt_run]
    dsimp only
    split
    · rfl
    · rw [Client.retryAfter_run hp]
  waits a n request w h hphase := by
    have hp := (h.budgeted.2 a rfl).policy
    rw [Client.poll_awaiting_run hphase]
    dsimp only
    rcases (w.bus.next c.mailbox).2 with _ | (q | s | _)
    · rfl
    · rfl
    · dsimp only
      cases answerTo? request s with
      | none => rfl
      | some r =>
        dsimp only
        by_cases hg : r.granted = true
        · rw [if_pos hg, if_pos hg]
        · rw [if_neg hg, if_neg hg, Client.retryAfter_run hp]
    · rw [Client.retryAfter_run hp]
  rests a n deadline w _ hphase := by
    rw [Client.poll_resting hphase]
    split <;> rfl
  granted _ _ h := h.granted
  rejection code message := by
    obtain ⟨hretryable, hfinal, hcode⟩ := PoolError.toFault_ofRejection code message
    refine ⟨PoolError.ofRejection_code code message, hretryable, hfinal, hcode, fun a now ↦ ?_⟩
    rw [afterFailure_eq_done_iff, PoolError.shouldRetry_ofRejection]
    simp
  codeless e hcode := by
    refine ⟨by simp [PoolError.isRetryable, hcode], fun a now ↦ ?_⟩
    rw [afterFailure_eq_done_iff, PoolError.shouldRetry_of_code_none p hcode]
    simp only [and_true, Nat.not_lt]

end SlotKeeper.Pool
