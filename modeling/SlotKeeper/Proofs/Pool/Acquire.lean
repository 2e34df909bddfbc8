import SlotKeeper.Pool.Client
import SlotKeeper.Proofs.Engine.Mailbox

/-!
# Acquiring a slot

A client's acquisition sends its request under a fresh id, then takes one item from its mailbox
at each wake-up. Queries are refused, and signals that do not answer the request are passed over:
other signal types, payloads that do not read as a response, and responses to other request ids,
such as an earlier call's or one delivered again after a recovery. The first answer decides, a
grant as a success and a rejection as the pool failure of its code; a mailbox that was displaced
and drained ends the wait.

Main statement, `acquire_decided_by_answer`: whatever else the process does between the wake-ups,
the call fails with a delivery error exactly when the bus refused its request; otherwise every
wait that ends is decided by the first answer to the request that the mailbox handed out, or by
the mailbox having lost its identity.
-/

namespace SlotKeeper.Pool

open Json Workflow Engine

/-- The response a signal gives to a request: a `SlotResponse` whose payload reads as a response
naming the request's id. -/
def answerTo? (request : Request) (s : Signal) : Option Response :=
  if s.isKind responseSignal then
    match decode Response.decoder s.payload with
    | .ok r => if r.request = request.id then some r else none
    | .error _ => none
  else none

/-- What a response decides: a grant is the response itself, a rejection the pool failure of its
code. -/
def Response.decision (r : Response) : Except PoolError Response :=
  if r.granted then .ok r else .error (PoolError.ofRejection r.code r.message)

/-- An item a waiting acquisition passes over: no closing, and no answer to its request. -/
def Passes (request : Request) (item : Option Inbound) : Prop :=
  item ≠ some .closed ∧ ∀ s, item = some (.signal s) → answerTo? request s = none

/-- What the items a mailbox hands out decide for a wait on `request`: every item but the last is
passed over, and the last is an answer, whose decision is taken, or the mailbox's closing. -/
inductive DecidedBy (requester : String) (request : Request) :
    List (Option Inbound) → Except PoolError Response → Prop
  | answer {s : Signal} {r : Response} (hr : answerTo? request s = some r) :
      DecidedBy requester request [some (.signal s)] r.decision
  | closed : DecidedBy requester request [some .closed] (.error (.mailboxClosed requester))
  | pass {item : Option Inbound} {items : List (Option Inbound)} {o : Except PoolError Response}
      (hpass : Passes request item) (h : DecidedBy requester request items o) :
      DecidedBy requester request (item :: items) o

namespace Response

/-- A response decides a success only when it grants, and then the success is the response. -/
theorem decision_eq_ok {r r' : Response} (h : r.decision = .ok r') : r.granted = true ∧ r' = r := by
  unfold decision at h
  by_cases hg : r.granted = true
  · rw [if_pos hg, Except.ok.injEq] at h
    exact ⟨hg, h.symm⟩
  · rw [if_neg hg] at h
    cases h

/-- A response decides a failure only when it rejects, and then the failure is its code's. -/
theorem decision_eq_error {r : Response} {e : PoolError} (h : r.decision = .error e) :
    r.granted = false ∧ e = PoolError.ofRejection r.code r.message := by
  unfold decision at h
  by_cases hg : r.granted = true
  · rw [if_pos hg] at h
    cases h
  · rw [if_neg hg, Except.error.injEq] at h
    exact ⟨by simpa using hg, h.symm⟩

end Response

/-- An answer names the request it answers. -/
theorem answerTo?_request {request : Request} {s : Signal} {r : Response}
    (h : answerTo? request s = some r) : r.request = request.id := by
  unfold answerTo? at h
  split at h
  · split at h
    · next r' _ =>
      by_cases hid : r'.request = request.id
      · rw [if_pos hid, Option.some.injEq] at h
        rw [← h, hid]
      · rw [if_neg hid] at h
        cases h
    · cases h
  · cases h

/-- A rejection is never the failure of a closed mailbox. -/
theorem ofRejection_ne_mailboxClosed (code message : Option String) (id : String) :
    PoolError.ofRejection code message ≠ .mailboxClosed id := by
  unfold PoolError.ofRejection
  cases code with
  | none => nofun
  | some c =>
    dsimp only
    split
    · nofun
    · split <;> nofun

namespace DecidedBy

variable {requester : String} {request : Request}

/-- The items decide one outcome only. -/
theorem unique {items : List (Option Inbound)} {o o' : Except PoolError Response}
    (h : DecidedBy requester request items o) (h' : DecidedBy requester request items o') :
    o = o' := by
  induction h generalizing o' with
  | answer hr =>
    cases h' with
    | answer hr' =>
      rw [hr, Option.some.injEq] at hr'
      rw [hr']
    | pass hpass h' =>
      exact absurd hr (by rw [hpass.2 _ rfl]; nofun)
  | closed =>
    cases h' with
    | closed => rfl
    | pass hpass _ => exact absurd rfl hpass.1
  | pass hpass _ ih =>
    cases h' with
    | answer hr => exact absurd hr (by rw [hpass.2 _ rfl]; nofun)
    | closed => exact absurd rfl hpass.1
    | pass _ h' => exact ih h'

/-- A success is a grant answering the request. -/
theorem ok {items : List (Option Inbound)} {r : Response}
    (h : DecidedBy requester request items (.ok r)) :
    r.granted = true ∧ r.request = request.id := by
  generalize ho : (Except.ok r : Except PoolError Response) = o at h
  induction h with
  | answer hr =>
    obtain ⟨hg, rfl⟩ := Response.decision_eq_ok ho.symm
    exact ⟨hg, answerTo?_request hr⟩
  | closed => cases ho
  | pass _ _ ih => exact ih ho

/-- A failure is the rejection of an answer to the request, or the closing of the mailbox. -/
theorem error {items : List (Option Inbound)} {e : PoolError}
    (h : DecidedBy requester request items (.error e)) :
    (∃ r : Response, r.request = request.id ∧ r.granted = false ∧
      e = PoolError.ofRejection r.code r.message) ∨
    (e = .mailboxClosed requester ∧ items.getLast? = some (some .closed)) := by
  generalize ho : (Except.error e : Except PoolError Response) = o at h
  induction h with
  | @answer s r hr =>
    obtain ⟨hg, he⟩ := Response.decision_eq_error ho.symm
    exact .inl ⟨r, answerTo?_request hr, hg, he⟩
  | closed =>
    rw [Except.error.injEq] at ho
    exact .inr ⟨ho, rfl⟩
  | @pass item items o _ h ih =>
    rcases ih ho with hrej | ⟨hclosed, hlast⟩
    · exact .inl hrej
    · -- the closing is still the last item after one more in front
      refine .inr ⟨hclosed, ?_⟩
      cases items with
      | nil => cases h
      | cons item' items' => rw [List.getLast?_cons_cons, hlast]

end DecidedBy

namespace Client

variable {c : Client} {a : Acquisition} {request : Request}

/-- A wait without a retry policy, woken once: the mailbox hands out its next item, which decides
the wait or is passed over. -/
theorem poll_awaiting (hphase : a.phase = .awaiting request) (hpolicy : a.policy = none)
    (w : World) :
    ((c.poll a).run w).1 =
      match (w.bus.next c.mailbox).2 with
      | some .closed => .done (.error (.mailboxClosed c.requester))
      | some (.signal s) =>
        match answerTo? request s with
        | some r => .done r.decision
        | none => .going a
      | _ => .going a := by
  rw [Client.poll, hphase]
  dsimp only
  rw [StateT.run_bind, World.onBus_run]
  dsimp only [bind]
  rcases (w.bus.next c.mailbox).2 with _ | (q | s | _)
  · rfl
  · rfl
  · -- a signal: passed over unless it answers the request
    dsimp only
    unfold answerTo?
    by_cases hkind : s.isKind responseSignal = true
    · rw [if_neg (by simp [hkind]), if_pos hkind]
      cases decode Response.decoder s.payload with
      | error _ => rfl
      | ok r =>
        dsimp only
        by_cases hid : r.request = request.id
        · rw [if_neg (by simp [hid]), if_pos hid]
          dsimp only
          unfold Response.decision
          by_cases hg : r.granted = true
          · rw [if_pos hg, if_pos hg]
            rfl
          · rw [if_neg hg, if_neg hg]
            simp only [retryAfter, hpolicy]
            rfl
        · rw [if_pos (by simp [hid]), if_neg hid]
          rfl
    · rw [if_pos (by simp [hkind]), if_neg hkind]
      rfl
  · simp only [retryAfter, hpolicy]
    rfl

/-- Deciding what follows a failure only reads the world. -/
theorem retryAfter_world (a : Acquisition) (e : PoolError) (w : World) :
    ((retryAfter a e).run w).2 = w := by
  unfold retryAfter
  cases a.policy with
  | none => rfl
  | some p =>
    dsimp only
    cases p.nextDelay a.attempt e.toFault with
    | ok d => cases d <;> rfl
    | error _ => rfl

/-- A wake-up never drops the client's mailbox. -/
theorem poll_box (hphase : a.phase = .awaiting request) (w : World) :
    (((c.poll a).run w).2.bus.box? c.mailbox).isSome = (w.bus.box? c.mailbox).isSome := by
  rw [Client.poll, hphase]
  dsimp only
  rw [StateT.run_bind, World.onBus_run]
  dsimp only [bind]
  rw [← Bus.box?_next_isSome w.bus c.mailbox]
  -- after the item is taken, only a refused query touches the bus, and it adds an answer
  rcases (w.bus.next c.mailbox).2 with _ | (q | s | _)
  · rfl
  · rfl
  · dsimp only
    split
    · rfl
    · split
      · rfl
      · split
        · rfl
        · split
          · rfl
          · rw [retryAfter_world]
  · rw [retryAfter_world]

end Client

/-- Wake-ups of a wait until it is decided, with anything that keeps the client's mailbox
happening between them: the mailbox handed out `items`, one per wake-up, and the deciding wake-up
found the world `last` and ended the wait with `o`. -/
inductive Polled (c : Client) (a : Acquisition) :
    World → List (Option Inbound) → World → Except PoolError Response → Prop
  | decided {w : World} {o : Except PoolError Response} (h : ((c.poll a).run w).1 = .done o) :
      Polled c a w [(w.bus.next c.mailbox).2] w o
  | waited {w w' last : World} {items : List (Option Inbound)} {o : Except PoolError Response}
      (h : ((c.poll a).run w).1 = .going a)
      (hkeep : (((c.poll a).run w).2.bus.box? c.mailbox).isSome →
        (w'.bus.box? c.mailbox).isSome)
      (hrest : Polled c a w' items last o) :
      Polled c a w ((w.bus.next c.mailbox).2 :: items) last o

namespace Polled

variable {c : Client} {a : Acquisition} {request : Request}

/-- Every item a decided wait took was passed over or decided it, in the way `DecidedBy` says. -/
theorem decidedBy (hphase : a.phase = .awaiting request) (hpolicy : a.policy = none)
    {w last : World} {items : List (Option Inbound)} {o : Except PoolError Response}
    (h : Polled c a w items last o) : DecidedBy c.requester request items o := by
  induction h with
  | @decided w o hdone =>
    rw [Client.poll_awaiting hphase hpolicy] at hdone
    rcases hitem : (w.bus.next c.mailbox).2 with _ | (q | s | _) <;> rw [hitem] at hdone
    · cases hdone
    · cases hdone
    · dsimp only at hdone
      cases hr : answerTo? request s with
      | none => rw [hr] at hdone; cases hdone
      | some r =>
        rw [hr, Acquiring.done.injEq] at hdone
        rw [← hdone]
        exact .answer hr
    · rw [Acquiring.done.injEq] at hdone
      rw [← hdone]
      exact .closed
  | @waited w w' last items o hgoing _ _ ih =>
    rw [Client.poll_awaiting hphase hpolicy] at hgoing
    refine .pass ⟨fun hclosed ↦ ?_, fun s hs ↦ ?_⟩ ih
    · rw [hclosed] at hgoing
      cases hgoing
    · rw [hs] at hgoing
      dsimp only at hgoing
      cases hr : answerTo? request s with
      | none => rfl
      | some r => rw [hr] at hgoing; cases hgoing

/-- The client's mailbox is still there when the wait is decided. -/
theorem box (hphase : a.phase = .awaiting request) {w last : World}
    {items : List (Option Inbound)} {o : Except PoolError Response} (h : Polled c a w items last o)
    (hbox : (w.bus.box? c.mailbox).isSome) : (last.bus.box? c.mailbox).isSome := by
  induction h with
  | decided => exact hbox
  | waited _ hkeep _ ih => exact ih (hkeep (by rw [Client.poll_box hphase]; exact hbox))

/-- A wait that ends on the mailbox's closing ends with a mailbox that lost its identity. -/
theorem displaced (hphase : a.phase = .awaiting request) (hpolicy : a.policy = none)
    {w last : World} {items : List (Option Inbound)} {id : String}
    (h : Polled c a w items last (.error (.mailboxClosed id)))
    (hbox : (w.bus.box? c.mailbox).isSome) :
    ∃ m, last.bus.box? c.mailbox = some m ∧ m.registered = false := by
  generalize ho : (Except.error (.mailboxClosed id) : Except PoolError Response) = o at h
  induction h with
  | @decided w o hdone =>
    rw [Client.poll_awaiting hphase hpolicy, ← ho] at hdone
    -- only the closing decides this failure: an answer decides a rejection or a grant
    rcases hitem : (w.bus.next c.mailbox).2 with _ | (q | s | _) <;> rw [hitem] at hdone
    · cases hdone
    · cases hdone
    · dsimp only at hdone
      cases hr : answerTo? request s with
      | none => rw [hr] at hdone; cases hdone
      | some r =>
        rw [hr, Acquiring.done.injEq] at hdone
        obtain ⟨-, he⟩ := Response.decision_eq_error hdone
        exact absurd he.symm (ofRejection_ne_mailboxClosed _ _ _)
    · rcases Bus.next_closed hitem with hnone | ⟨m, hm, -, -, hreg⟩
      · rw [hnone] at hbox
        cases hbox
      · exact ⟨m, hm, hreg⟩
  | waited _ hkeep _ ih =>
    exact ih (hkeep (by rw [Client.poll_box hphase]; exact hbox)) ho

end Polled

namespace Client

/-- Starting an acquisition sends the request with a fresh id and the clock's reading: a refusal
fails it with the delivery error, and otherwise it waits for the answer. -/
theorem acquire_run (c : Client) (timeout : Span) (w : World) :
    (c.acquire timeout none).run w =
      (match (w.bus.signal c.coordinator
          ⟨acquireSignal, (Request.mk c.requester c.run (requestId w.requests).render
            w.clock.now timeout 0).toJson, w.clock.now⟩).2 with
        | .ok () =>
          .going ⟨timeout, none, 1, .awaiting
            ⟨c.requester, c.run, (requestId w.requests).render, w.clock.now, timeout, 0⟩⟩
        | .error e => .done (.error (.delivery e)),
        { w with requests := w.requests + 1,
                 bus := (w.bus.signal c.coordinator
                   ⟨acquireSignal, (Request.mk c.requester c.run (requestId w.requests).render
                     w.clock.now timeout 0).toJson, w.clock.now⟩).1 }) := by
  unfold acquire attempt send
  simp only [StateT.run_bind, StateT.run_get, StateT.run_set, World.onBus_run, pure_bind,
    StateT.run_pure]
  dsimp only [bind]
  cases (w.bus.signal c.coordinator
    ⟨acquireSignal, (Request.mk c.requester c.run (requestId w.requests).render w.clock.now
      timeout 0).toJson, w.clock.now⟩).2 with
  | ok u => rfl
  | error e => rfl

end Client

/-- A signal leaves every mailbox in place. -/
theorem Bus.box?_signal_isSome (b : Bus) (identity : String) (s : Signal) (g : Nat) :
    ((b.signal identity s).1.box? g).isSome = (b.box? g).isSome := by
  unfold Bus.signal
  cases b.owner? identity with
  | none => rfl
  | some m =>
    dsimp only
    rw [Bus.box?_modifyBox b m.generation (f := fun m ↦ { m with signals := m.signals ++ [s] })
      (fun _ ↦ rfl)]
    split
    · rw [Option.isSome_map]
    · rfl

/-- An acquisition started from `w₀` agrees with the answer it waits for: it fails with a delivery
error exactly when the bus refused its request, and otherwise, whatever happens between its
wake-ups, a wait that ends is decided by the first answer to the request its mailbox handed out,
a grant as that response and a rejection as the failure of its code, or it ends because its
mailbox lost its identity. -/
def AcquireAgrees (c : Client) (timeout : Span) (w₀ : World) : Prop :=
  let request : Request :=
    ⟨c.requester, c.run, (requestId w₀.requests).render, w₀.clock.now, timeout, 0⟩
  let sent := (w₀.bus.signal c.coordinator ⟨acquireSignal, request.toJson, w₀.clock.now⟩).2
  let start := (c.acquire timeout none).run w₀
  (∀ e, start.1 = .done (.error (.delivery e)) ↔ sent = .error e) ∧
  (sent = .ok () → start.1 = .going ⟨timeout, none, 1, .awaiting request⟩ ∧
    ∀ w items last o, ((start.2.bus.box? c.mailbox).isSome → (w.bus.box? c.mailbox).isSome) →
      Polled c ⟨timeout, none, 1, .awaiting request⟩ w items last o →
      DecidedBy c.requester request items o ∧
      (∀ r, o = .ok r → r.granted = true ∧ r.request = request.id) ∧
      (∀ e, o = .error e →
        (∃ r : Response, r.request = request.id ∧ r.granted = false ∧
          e = PoolError.ofRejection r.code r.message) ∨
        (e = .mailboxClosed c.requester ∧
          ∃ m, last.bus.box? c.mailbox = some m ∧ m.registered = false)))

/-- Every acquisition by a client whose mailbox is in place agrees with the answer it waits for;
other parties' signals, queries and answers delivered again after a recovery never decide it. -/
theorem acquire_decided_by_answer (c : Client) (timeout : Span) (w₀ : World)
    (hbox : (w₀.bus.box? c.mailbox).isSome) : AcquireAgrees c timeout w₀ := by
  unfold AcquireAgrees
  intro request sent start
  have hstart : start = _ := Client.acquire_run c timeout w₀
  refine ⟨fun e ↦ ?_, fun hsent ↦ ?_⟩
  · -- the call fails with a delivery error only through the refusal of its request
    rw [hstart]
    show (match sent with
      | .ok () => Acquiring.going _
      | .error e => .done (.error (.delivery e))) = _ ↔ _
    cases sent with
    | ok u => exact ⟨nofun, nofun⟩
    | error e' =>
      constructor
      · intro h
        cases h
        rfl
      · intro h
        cases h
        rfl
  · have hgoing : start.1 = .going ⟨timeout, none, 1, .awaiting request⟩ := by
      rw [hstart]
      show (match sent with
        | .ok () => Acquiring.going _
        | .error e => .done (.error (.delivery e))) = _
      rw [hsent]
    refine ⟨hgoing, fun w items last o hkeep hpolled ↦ ?_⟩
    have hbox' : (w.bus.box? c.mailbox).isSome := by
      apply hkeep
      rw [hstart]
      show ((w₀.bus.signal c.coordinator _).1.box? c.mailbox).isSome
      rw [Bus.box?_signal_isSome]
      exact hbox
    have hphase : (⟨timeout, none, 1, .awaiting request⟩ : Acquisition).phase = .awaiting request :=
      rfl
    have hdecided := hpolled.decidedBy hphase rfl
    refine ⟨hdecided, fun r hr ↦ (hr ▸ hdecided).ok, fun e he ↦ ?_⟩
    subst he
    rcases hdecided.error with hrej | ⟨hclosed, -⟩
    · exact .inl hrej
    · subst hclosed
      exact .inr ⟨rfl, hpolled.displaced rfl rfl hbox'⟩

/-- A client opened on a fresh bus. -/
def openedClient : Client × World :=
  (Client.open "a" "a-run").run (World.fresh ⟨0, 0⟩ Limits.default)

theorem opened_client_acquire_agrees :
    (openedClient.2.bus.box? openedClient.1.mailbox).isSome = true ∧
      AcquireAgrees openedClient.1 (Span.ofMillis 60000) openedClient.2 :=
  ⟨rfl, acquire_decided_by_answer _ _ _ rfl⟩

end SlotKeeper.Pool
