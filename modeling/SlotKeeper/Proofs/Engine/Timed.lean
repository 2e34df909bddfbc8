import SlotKeeper.Proofs.Engine.Triple

/-!
# Triples at a fixed instant

Within one step of a run loop the clock stands still and the limits stay as they are: the
executor reads both and changes neither. `Timed t limits pre m post` is a triple over the store
for work started in a world whose clock reads `t` and whose limits are `limits`; it also says
that the work leaves the clock and the limits alone, so every instant the work reads is `t`.
Facts that tie the executor's stamps to its checks need this: an input stamped when its run was
already old makes the check that follows find the run due, because both read the same instant.
A store triple forgets the clock, and every reading of it is a fresh unknown.

Work that keeps the clock and the limits (`Keeps`) turns its store triples into timed ones
(`Timed.of_triple`); the store calls and the bus come that way. Each store call gets a sharper
rule than its store triple, naming the failures it can answer: an append fails with a concurrency
conflict only when the run is running at another position than the one expected, and no other
call ever answers one.
-/

namespace SlotKeeper.Engine

open Json Workflow Store

/-- Work `m`, started in a world whose clock reads `t` and whose limits are `limits`, with a
store satisfying `pre`, keeps the clock and the limits and ends with a result and a store
satisfying `post`. -/
def Timed {α : Type} (t : Instant) (limits : Limits) (pre : Memory → Prop) (m : WorldM α)
    (post : α → Memory → Prop) : Prop :=
  ∀ w, w.clock.now = t → w.limits = limits → pre w.store →
    (m.run w).2.clock.now = t ∧ (m.run w).2.limits = limits ∧ post (m.run w).1 (m.run w).2.store

/-- Work that leaves the clock and the limits as they are. -/
def Keeps {α : Type} (m : WorldM α) : Prop :=
  ∀ w, (m.run w).2.clock = w.clock ∧ (m.run w).2.limits = w.limits

namespace Keeps

variable {α β : Type}

theorem guarded (op : Operation) (call : Memory → Except StoreError α × Memory)
    (spoilt : α → α) : Keeps (World.guarded op call spoilt) := by
  intro w
  simp only [World.guarded, StateT.run_modifyGet]
  cases (w.faults.consult op).2 <;> exact ⟨rfl, rfl⟩

theorem map {x : WorldM α} (h : Keeps x) (f : α → β) : Keeps (f <$> x) := by
  intro w
  rw [StateT.run_map]
  exact h w

theorem stored {call : WorldM (Except StoreError α)} (h : Keeps call) :
    Keeps (Engine.stored call : ExceptT ExecutorError WorldM α).run :=
  h.map _

theorem onBus (f : Bus → Bus × α) : Keeps (World.onBus f) := fun _ ↦ ⟨rfl, rfl⟩

end Keeps

namespace Timed

variable {α β ε : Type} {t : Instant} {limits : Limits} {P P' : Memory → Prop}
  {Q Q' : α → Memory → Prop}

theorem mono {m : WorldM α} (h : Timed t limits P m Q) (hp : ∀ s, P' s → P s)
    (hq : ∀ a s, Q a s → Q' a s) : Timed t limits P' m Q' := by
  intro w hc hl hw
  obtain ⟨hc', hl', hq'⟩ := h w hc hl (hp _ hw)
  exact ⟨hc', hl', hq _ _ hq'⟩

/-- A store triple of work that keeps the clock and the limits. -/
theorem of_triple {m : WorldM α} (h : Triple P m Q) (hk : Keeps m) : Timed t limits P m Q := by
  intro w hc hl hw
  obtain ⟨hc', hl'⟩ := hk w
  exact ⟨by rw [hc', hc], by rw [hl', hl], h w hw⟩

theorem pure (a : α) : Timed t limits (Q a) (Pure.pure a) Q := fun _ hc hl h ↦ ⟨hc, hl, h⟩

theorem bind {x : WorldM α} {f : α → WorldM β} {R : β → Memory → Prop}
    (hx : Timed t limits P x Q) (hf : ∀ a, Timed t limits (Q a) (f a) R) :
    Timed t limits P (x >>= f) R := by
  intro w hc hl hw
  obtain ⟨hc', hl', hq⟩ := hx w hc hl hw
  rw [StateT.run_bind]
  exact hf _ _ hc' hl' hq

theorem map {f : α → β} {x : WorldM α} {R : β → Memory → Prop}
    (h : Timed t limits P x fun a ↦ R (f a)) : Timed t limits P (f <$> x) R := by
  intro w hc hl hw
  rw [StateT.run_map]
  exact h w hc hl hw

theorem stored {R : Except ExecutorError α → Memory → Prop}
    {call : WorldM (Except StoreError α)} (h : Timed t limits P call fun r ↦ R (r.mapError .store)) :
    Timed t limits P (Engine.stored call : ExceptT ExecutorError WorldM α).run R :=
  map h

/-- Work whose failures are carried into another error type. -/
theorem adapt {ε' : Type} {f : ε → ε'} {x : ExceptT ε WorldM α} {R : Except ε' α → Memory → Prop}
    (h : Timed t limits P x.run fun r ↦ R (r.mapError f)) : Timed t limits P (x.adapt f).run R :=
  map h

/-- Reading the world finds the clock at `t` and the limits in place. -/
theorem read {Q : World → Memory → Prop} :
    Timed t limits (fun s ↦ ∀ w : World, w.store = s → w.clock.now = t → w.limits = limits → Q w s)
      MonadState.get Q :=
  fun w hc hl hw ↦ ⟨hc, hl, hw w rfl hc hl⟩

/-- A bind hands a success on to the rest of the work and a failure to the postcondition. -/
theorem ebind {x : ExceptT ε WorldM α} {f : α → ExceptT ε WorldM β} {M : α → Memory → Prop}
    {R : Except ε β → Memory → Prop}
    (hx : Timed t limits P x.run fun r s ↦ match r with
      | .ok a => M a s
      | .error e => R (.error e) s)
    (hf : ∀ a, Timed t limits (M a) (f a).run R) : Timed t limits P (x >>= f).run R := by
  rw [ExceptT.run_bind]
  refine bind hx fun r ↦ ?_
  cases r with
  | ok a => exact hf a
  | error e => exact fun _ hc hl h ↦ ⟨hc, hl, h⟩

/-- A bind through a specification of its first part: the failures it allows must satisfy the
postcondition, and each success starts the rest of the work. -/
theorem ebind_of {x : ExceptT ε WorldM α} {f : α → ExceptT ε WorldM β}
    {Q : Except ε α → Memory → Prop} {R : Except ε β → Memory → Prop}
    (hx : Timed t limits P x.run Q) (herr : ∀ e s, Q (.error e) s → R (.error e) s)
    (hf : ∀ a, Timed t limits (Q (.ok a)) (f a).run R) : Timed t limits P (x >>= f).run R := by
  refine ebind (hx.mono (fun _ h ↦ h) fun r s h ↦ ?_) hf
  cases r with
  | ok a => exact h
  | error e => exact herr e s h

theorem epure {R : Except ε α → Memory → Prop} (a : α) :
    Timed t limits (R (.ok a)) (Pure.pure a : ExceptT ε WorldM α).run R :=
  fun _ hc hl h ↦ ⟨hc, hl, h⟩

theorem ethrow {R : Except ε α → Memory → Prop} (e : ε) :
    Timed t limits (R (.error e)) (throw e : ExceptT ε WorldM α).run R :=
  fun _ hc hl h ↦ ⟨hc, hl, h⟩

theorem emk {R : Except ε α → Memory → Prop} (r : Except ε α) :
    Timed t limits (R r) (ExceptT.mk (Pure.pure r) : ExceptT ε WorldM α).run R :=
  fun _ hc hl h ↦ ⟨hc, hl, h⟩

theorem elift {R : Except ε α → Memory → Prop} {x : WorldM α}
    (h : Timed t limits P x fun a ↦ R (.ok a)) :
    Timed t limits P (liftM x : ExceptT ε WorldM α).run R :=
  h

/-- The clock reads `t`. -/
theorem now {Q : Instant → Memory → Prop} :
    Timed t limits (Q t) (Host.now : WorldM Instant) Q :=
  fun w hc hl h ↦ ⟨hc, hl, by show Q w.clock.now w.store; rw [hc]; exact h⟩

/-- Work that may fail and first reads the clock goes on at `t`. -/
theorem after_now {f : Instant → ExceptT ε WorldM β} {R : Except ε β → Memory → Prop}
    (hf : Timed t limits P (f t).run R) :
    Timed t limits P ((liftM (Host.now : WorldM Instant) : ExceptT ε WorldM Instant) >>= f).run R :=
  ebind (M := fun a s ↦ a = t ∧ P s) (elift (now.mono (fun _ h ↦ ⟨rfl, h⟩) fun _ _ h ↦ h))
    fun a ↦ fun w hc hl ⟨ha, hw⟩ ↦ by subst ha; exact hf w hc hl hw

theorem onBus (f : Bus → Bus × α) : Timed t limits (fun s ↦ ∀ a, Q a s) (World.onBus f) Q :=
  of_triple (Triple.onBus f) (Keeps.onBus f)

theorem changeBus (f : Bus → Bus) : Timed t limits P (World.changeBus f) fun _ ↦ P :=
  fun _ hc hl h ↦ ⟨hc, hl, h⟩

theorem deliver {Q : Except DeliveryError Unit → Memory → Prop} (target : String)
    (signal : Signal) :
    Timed t limits (fun s ↦ ∀ r, Q r s) (Host.deliver target signal : WorldM _) Q :=
  onBus _

end Timed

/-! ### Store calls at a fixed instant -/

section StoreCalls

variable {α : Type} {t : Instant} {limits : Limits} {P : Memory → Prop}

/-- An answer that is not spoilt. -/
theorem Except.map_identity {ε β : Type} (x : Except ε β) : x.map id = x := by
  cases x <;> rfl

/-- An append fails with the injected fault, with the run missing or closed, or with a conflict
when the run is running at another position than `expected`; or it extends the running run
that stands at `expected`, answering the position after the new events. -/
theorem Timed.appendEvents {R : Except ExecutorError Int → Memory → Prop} (id : Uuid)
    (expected : Int) (events : List Event)
    (hfail : ∀ s e, P s → (∀ x y, e = .conflict x y →
      ∃ r, s.find? id = some r ∧ r.info.status.isRunning = true ∧
        Memory.sequenceOf r.events.length ≠ expected) → R (.error (.store e)) s)
    (hok : ∀ s r, P s → s.find? id = some r → r.info.status.isRunning = true →
      Memory.sequenceOf r.events.length = expected →
      R (.ok (Memory.sequenceOf (r.events.length + events.length)))
        (s.put id { r with events := r.events ++ events })) :
    Timed t limits P (Engine.stored (EventStore.appendEvents id expected events : WorldM _)).run
      R := by
  refine Timed.of_triple (Triple.stored ((Triple.guarded _ _ _).mono (fun s hs ↦ ?_)
    fun _ _ h ↦ h)) (Keeps.stored (Keeps.guarded _ _ _))
  have hinjected : R (.error (.store injected)) s := hfail s _ hs fun _ _ h ↦ nomatch h
  -- the call itself: its answer is never spoilt, and both verdicts that run it agree
  suffices h : R ((s.appendEvents id expected events).1.mapError .store)
      (s.appendEvents id expected events).2 from
    ⟨hinjected, h, by rw [Except.map_identity]; exact h⟩
  unfold Memory.appendEvents
  cases hr : s.running id with
  | error e =>
    refine hfail s e hs fun x y he ↦ ?_
    unfold Memory.running at hr
    split at hr
    · cases hr
      cases he
    · split at hr
      · cases hr
      · cases hr
        cases he
  | ok r =>
    obtain ⟨hfind, hrun⟩ := Memory.running_eq_ok.mp hr
    dsimp only
    by_cases hc : Memory.sequenceOf r.events.length ≠ expected
    · rw [if_pos hc]
      exact hfail s _ hs fun _ _ _ ↦ ⟨r, hfind, hrun, hc⟩
    · rw [if_neg hc]
      rw [List.length_append] at *
      exact hok s r hs hfind hrun (Decidable.of_not_not hc)

/-- Closing fails without a conflict and leaves the store alone, or closes a running run. -/
theorem Timed.closeRun {R : Except StoreError Unit → Memory → Prop} (id : Uuid)
    (status : Status) (reason : String)
    (hfail : ∀ s e, P s → (∀ x y, e ≠ .conflict x y) → R (.error e) s)
    (hok : ∀ s r, P s → s.find? id = some r → r.info.status.isRunning = true →
      R (.ok ()) (s.put id ⟨{ r.info with status }, r.events ++ (closingEvent status reason).toList⟩)) :
    Timed t limits P (EventStore.closeRun id status reason : WorldM _) R := by
  refine Timed.of_triple ((Triple.guarded _ _ _).mono (fun s hs ↦ ?_) fun _ _ h ↦ h)
    (Keeps.guarded _ _ _)
  have hinjected : R (.error injected) s := hfail s _ hs fun _ _ h ↦ nomatch h
  suffices h : R (s.closeRun id status reason).1 (s.closeRun id status reason).2 from
    ⟨hinjected, h, by rw [Except.map_identity]; exact h⟩
  unfold Memory.closeRun
  cases hr : s.running id with
  | error e =>
    refine hfail s e hs fun x y he ↦ ?_
    subst he
    unfold Memory.running at hr
    split at hr
    · cases hr
    · split at hr <;> cases hr
  | ok r =>
    obtain ⟨hfind, hrun⟩ := Memory.running_eq_ok.mp hr
    exact hok s r hs hfind hrun

theorem Timed.currentRun {R : Except ExecutorError (Option RunInfo) → Memory → Prop}
    (workflow : String) (hfail : ∀ s, P s → R (.error (.store injected)) s)
    (hok : ∀ s, P s → R (.ok (s.currentRun workflow)) s) :
    Timed t limits P (Engine.stored (EventStore.currentRun workflow : WorldM _)).run R :=
  Timed.of_triple (Triple.stored ((Triple.guarded _ _ _).mono
    (fun _ hs ↦ ⟨hfail _ hs, hok _ hs, hok _ hs⟩) fun _ _ h ↦ h)) (Keeps.stored (Keeps.guarded _ _ _))

/-- Starting fails without a conflict and leaves the store alone, or files a fresh run. -/
theorem Timed.startRun {R : Except ExecutorError RunInfo → Memory → Prop}
    (workflow workflowType : String) (input : Json) (at_ : Instant)
    (hfail : ∀ s e, P s → (∀ x y, e ≠ .conflict x y) → R (.error (.store e)) s)
    (hok : ∀ s, P s → R (.ok (s.insertRun workflow workflowType input at_).1)
      (s.insertRun workflow workflowType input at_).2) :
    Timed t limits P
      (Engine.stored (EventStore.startRun workflow workflowType input at_ : WorldM _)).run R := by
  refine Timed.of_triple (Triple.stored ((Triple.guarded _ _ _).mono (fun s hs ↦ ?_)
    fun _ _ h ↦ h)) (Keeps.stored (Keeps.guarded _ _ _))
  suffices h : R ((s.startRun workflow workflowType input at_).1.mapError .store)
      (s.startRun workflow workflowType input at_).2 from
    ⟨hfail s _ hs (fun _ _ h ↦ nomatch h), h, by rw [Except.map_identity]; exact h⟩
  unfold Memory.startRun
  dsimp only
  split
  · exact hfail s _ hs fun _ _ h ↦ nomatch h
  · exact hok s hs

/-- A load fails only for a missing run, or answers the run's events, perhaps without the
first. -/
theorem Timed.loadEvents {R : Except ExecutorError (List (Int × Event)) → Memory → Prop}
    (id : Uuid) (hfail : ∀ s e, P s → (∀ x y, e ≠ .conflict x y) → R (.error (.store e)) s)
    (hok : ∀ s r events, P s → s.find? id = some r →
      (events.map (·.2) = r.events ∨ events.map (·.2) = r.events.tail) → R (.ok events) s) :
    Timed t limits P (Engine.stored (EventStore.loadEvents id : WorldM _)).run R := by
  refine Timed.of_triple (Triple.stored ((Triple.guarded _ _ _).mono (fun s hs ↦ ?_)
    fun _ _ h ↦ h)) (Keeps.stored (Keeps.guarded _ _ _))
  refine ⟨hfail s _ hs (fun _ _ h ↦ nomatch h), ?_⟩
  cases hload : s.loadEvents id with
  | error e =>
    have hne : ∀ x y, e ≠ .conflict x y := by
      unfold Memory.loadEvents at hload
      split at hload
      · cases hload
        exact fun _ _ h ↦ nomatch h
      · cases hload
    exact ⟨hfail _ _ hs hne, hfail _ _ hs hne⟩
  | ok events =>
    obtain ⟨r, hfind, hevents⟩ := Memory.loadEvents_eq_ok hload
    refine ⟨hok _ _ _ hs hfind (.inl hevents), hok _ _ _ hs hfind (.inr ?_)⟩
    rw [List.map_tail, hevents]

/-- Continuing fails without a conflict and leaves the store alone, or replaces a running run
by its successor. -/
theorem Timed.continueAsNew {R : Except ExecutorError RunInfo → Memory → Prop} (id : Uuid)
    (snapshot : Json) (at_ : Instant)
    (hfail : ∀ s e, P s → (∀ x y, e ≠ .conflict x y) → R (.error (.store e)) s)
    (hok : ∀ s r, P s → s.find? id = some r → r.info.status.isRunning = true →
      R (.ok ((s.drop id).insertRun r.info.workflow r.info.workflowType snapshot at_).1)
        ((s.drop id).insertRun r.info.workflow r.info.workflowType snapshot at_).2) :
    Timed t limits P (Engine.stored (EventStore.continueAsNew id snapshot at_ : WorldM _)).run
      R := by
  refine Timed.of_triple (Triple.stored ((Triple.guarded _ _ _).mono (fun s hs ↦ ?_)
    fun _ _ h ↦ h)) (Keeps.stored (Keeps.guarded _ _ _))
  suffices h : R ((s.continueAsNew id snapshot at_).1.mapError .store)
      (s.continueAsNew id snapshot at_).2 from
    ⟨hfail s _ hs (fun _ _ h ↦ nomatch h), h, by rw [Except.map_identity]; exact h⟩
  unfold Memory.continueAsNew
  cases hr : s.running id with
  | error e => exact hfail s e hs (Memory.running_unconflicted hr)
  | ok r =>
    obtain ⟨hfind, hrun⟩ := Memory.running_eq_ok.mp hr
    exact hok s r hs hfind hrun

end StoreCalls

end SlotKeeper.Engine
