import SlotKeeper.Engine.World
import SlotKeeper.Proofs.Store.Runs

/-!
# Hoare triples over the store

`Triple pre m post` says that work `m` on the shared world, started in any world whose store
satisfies `pre`, ends with a result and a store satisfying `post`, whatever the clock, the bus,
the limits and the fault plan hold. The executor's invariants are all about the store, so this
is the only part of the world a triple looks at; the rest is quantified away.

The rules take triples through plain world work (`WorldM`) and through work that may fail with an
error (`ExceptT ε WorldM`), whose postcondition reads the `Except` result: a bind hands a success
to the rest of the work and a failure straight to the postcondition. Reading the clock and using
the bus leave the store alone. A store call goes through the fault plan: it fails with the
injected error and leaves the store alone, or it runs on the store, possibly with its answer
spoilt; with the case lemmas of the in-memory store each call becomes a rule with one premise for
failure and one for success.
-/

namespace SlotKeeper.Engine

open Json Workflow Store

/-- Work `m`, from any world whose store satisfies `pre`, ends with a result and a store
satisfying `post`. -/
def Triple {α : Type} (pre : Memory → Prop) (m : WorldM α) (post : α → Memory → Prop) : Prop :=
  ∀ w, pre w.store → post (m.run w).1 (m.run w).2.store

namespace Triple

variable {α β ε : Type} {P P' : Memory → Prop} {Q Q' : α → Memory → Prop}

theorem mono {m : WorldM α} (h : Triple P m Q) (hp : ∀ s, P' s → P s)
    (hq : ∀ a s, Q a s → Q' a s) : Triple P' m Q' :=
  fun w hw ↦ hq _ _ (h w (hp _ hw))

theorem pure (a : α) : Triple (Q a) (Pure.pure a) Q := fun _ h ↦ h

theorem bind {x : WorldM α} {f : α → WorldM β} {R : β → Memory → Prop} (hx : Triple P x Q)
    (hf : ∀ a, Triple (Q a) (f a) R) : Triple P (x >>= f) R := by
  intro w hw
  have h := hx w hw
  rw [StateT.run_bind]
  exact hf _ _ h

theorem read {Q : World → Memory → Prop} :
    Triple (fun s ↦ ∀ w : World, w.store = s → Q w s) MonadState.get Q :=
  fun w hw ↦ hw w rfl

theorem modifyGet (f : World → α × World) (hf : ∀ w, (f w).2.store = w.store) :
    Triple (fun s ↦ ∀ a, Q a s) (MonadStateOf.modifyGet f : WorldM α) Q := by
  intro w hw
  show Q (f w).1 (f w).2.store
  rw [hf]
  exact hw _

/-! ### Work that may fail -/

/-- A bind hands a success on to the rest of the work and a failure to the postcondition. -/
theorem ebind {x : ExceptT ε WorldM α} {f : α → ExceptT ε WorldM β} {M : α → Memory → Prop}
    {R : Except ε β → Memory → Prop}
    (hx : Triple P x.run fun r s ↦ match r with
      | .ok a => M a s
      | .error e => R (.error e) s)
    (hf : ∀ a, Triple (M a) (f a).run R) : Triple P (x >>= f).run R := by
  rw [ExceptT.run_bind]
  refine bind hx fun r ↦ ?_
  cases r with
  | ok a => exact hf a
  | error e => exact fun _ h ↦ h

/-- A bind through a specification of its first part: the failures it allows must satisfy the
postcondition, and each success starts the rest of the work. -/
theorem ebind_of {x : ExceptT ε WorldM α} {f : α → ExceptT ε WorldM β}
    {Q : Except ε α → Memory → Prop} {R : Except ε β → Memory → Prop} (hx : Triple P x.run Q)
    (herr : ∀ e s, Q (.error e) s → R (.error e) s) (hf : ∀ a, Triple (Q (.ok a)) (f a).run R) :
    Triple P (x >>= f).run R := by
  refine ebind (hx.mono (fun _ h ↦ h) fun r s h ↦ ?_) hf
  cases r with
  | ok a => exact h
  | error e => exact herr e s h

theorem epure {R : Except ε α → Memory → Prop} (a : α) :
    Triple (R (.ok a)) (Pure.pure a : ExceptT ε WorldM α).run R :=
  fun _ h ↦ h

theorem ethrow {R : Except ε α → Memory → Prop} (e : ε) :
    Triple (R (.error e)) (throw e : ExceptT ε WorldM α).run R :=
  fun _ h ↦ h

theorem emk {R : Except ε α → Memory → Prop} (r : Except ε α) :
    Triple (R r) (ExceptT.mk (Pure.pure r) : ExceptT ε WorldM α).run R :=
  fun _ h ↦ h

theorem elift {R : Except ε α → Memory → Prop} {x : WorldM α}
    (h : Triple P x fun a ↦ R (.ok a)) : Triple P (liftM x : ExceptT ε WorldM α).run R := by
  intro w hw
  exact h w hw

theorem map {f : α → β} {x : WorldM α} {R : β → Memory → Prop}
    (h : Triple P x fun a ↦ R (f a)) : Triple P (f <$> x) R := by
  intro w hw
  rw [StateT.run_map]
  exact h w hw

end Triple

/-! ### The world's own operations -/

variable {α : Type} {P : Memory → Prop} {Q : α → Memory → Prop}

theorem Triple.now {Q : Instant → Memory → Prop} : Triple (fun s ↦ ∀ t, Q t s) (Host.now : WorldM Instant) Q :=
  fun _ hw ↦ hw _

/-- Work that may fail and first reads the clock goes on from the store it started with. -/
theorem Triple.after_now {ε β : Type} {f : Instant → ExceptT ε WorldM β}
    {R : Except ε β → Memory → Prop} (hf : ∀ t, Triple P (f t).run R) :
    Triple P ((liftM (Host.now : WorldM Instant) : ExceptT ε WorldM Instant) >>= f).run R :=
  Triple.ebind (M := fun _ ↦ P) (Triple.elift (Triple.now.mono (fun _ h _ ↦ h) fun _ _ h ↦ h)) hf

theorem Triple.onBus (f : Bus → Bus × α) : Triple (fun s ↦ ∀ a, Q a s) (World.onBus f) Q :=
  Triple.modifyGet _ fun _ ↦ rfl

theorem Triple.changeBus (f : Bus → Bus) : Triple P (World.changeBus f) fun _ ↦ P :=
  fun _ hw ↦ hw

theorem Triple.deliver {Q : Except DeliveryError Unit → Memory → Prop} (target : String)
    (signal : Signal) : Triple (fun s ↦ ∀ r, Q r s) (Host.deliver target signal : WorldM _) Q :=
  Triple.onBus _

/-- A store call through the fault plan: the injected failure, or the call, possibly spoilt. -/
theorem Triple.guarded {Q : Except StoreError α → Memory → Prop} (op : Operation)
    (call : Memory → Except StoreError α × Memory) (spoilt : α → α) :
    Triple (fun s ↦ Q (.error injected) s ∧ Q (call s).1 (call s).2 ∧
      Q ((call s).1.map spoilt) (call s).2) (World.guarded op call spoilt) Q := by
  intro w hw
  simp only [World.guarded, StateT.run_modifyGet]
  cases (w.faults.consult op).2 with
  | fail => exact hw.1
  | pass => exact hw.2.1
  | dropFirst => exact hw.2.2

theorem Triple.stored {R : Except ExecutorError α → Memory → Prop}
    {call : WorldM (Except StoreError α)} (h : Triple P call fun r ↦ R (r.mapError .store)) :
    Triple P (stored call : ExceptT ExecutorError WorldM α).run R :=
  Triple.map h

/-! ### Store calls through the fault plan -/

section StoreCalls

/-- An append fails and leaves the store alone, or extends a running run. -/
theorem Triple.appendEvents {R : Except ExecutorError Int → Memory → Prop} (id : Uuid)
    (expected : Int) (events : List Event) (hfail : ∀ s e, P s → R (.error e) s)
    (hok : ∀ s r n, P s → s.find? id = some r → r.info.status.isRunning = true →
      R (.ok n) (s.put id { r with events := r.events ++ events })) :
    Triple P (Engine.stored (EventStore.appendEvents id expected events : WorldM _)).run R := by
  refine Triple.stored ((Triple.guarded _ _ _).mono (fun s hs ↦ ?_) fun _ _ h ↦ h)
  rcases s.appendEvents_cases id expected events with ⟨e, he⟩ | ⟨r, hfind, hrun, n, he⟩
  · rw [he]
    exact ⟨hfail _ _ hs, hfail _ _ hs, hfail _ _ hs⟩
  · rw [he]
    exact ⟨hfail _ _ hs, hok _ _ _ hs hfind hrun, hok _ _ _ hs hfind hrun⟩

/-- A load fails and leaves the store alone, or answers the run's events, perhaps without the
first. -/
theorem Triple.loadEvents {R : Except ExecutorError (List (Int × Event)) → Memory → Prop}
    (id : Uuid) (hfail : ∀ s e, P s → R (.error e) s)
    (hok : ∀ s r events, P s → s.find? id = some r →
      (events.map (·.2) = r.events ∨ events.map (·.2) = r.events.tail) → R (.ok events) s) :
    Triple P (Engine.stored (EventStore.loadEvents id : WorldM _)).run R := by
  refine Triple.stored ((Triple.guarded _ _ _).mono (fun s hs ↦ ?_) fun _ _ h ↦ h)
  refine ⟨hfail _ _ hs, ?_⟩
  cases hload : s.loadEvents id with
  | error e => exact ⟨hfail _ _ hs, hfail _ _ hs⟩
  | ok events =>
    obtain ⟨r, hfind, hevents⟩ := Memory.loadEvents_eq_ok hload
    refine ⟨hok _ _ _ hs hfind (.inl hevents), hok _ _ _ hs hfind (.inr ?_)⟩
    rw [List.map_tail, hevents]

theorem Triple.currentRun {R : Except ExecutorError (Option RunInfo) → Memory → Prop}
    (workflow : String) (hfail : ∀ s e, P s → R (.error e) s)
    (hok : ∀ s, P s → R (.ok (s.currentRun workflow)) s) :
    Triple P (Engine.stored (EventStore.currentRun workflow : WorldM _)).run R :=
  Triple.stored ((Triple.guarded _ _ _).mono (fun _ hs ↦ ⟨hfail _ _ hs, hok _ hs, hok _ hs⟩)
    fun _ _ h ↦ h)

/-- Starting fails and leaves the store alone, or files a fresh run. -/
theorem Triple.startRun {R : Except ExecutorError RunInfo → Memory → Prop}
    (workflow workflowType : String) (input : Json) (at_ : Instant)
    (hfail : ∀ s e, P s → R (.error e) s)
    (hok : ∀ s, P s → R (.ok (s.insertRun workflow workflowType input at_).1)
      (s.insertRun workflow workflowType input at_).2) :
    Triple P (Engine.stored (EventStore.startRun workflow workflowType input at_ : WorldM _)).run R := by
  refine Triple.stored ((Triple.guarded _ _ _).mono (fun s hs ↦ ?_) fun _ _ h ↦ h)
  rcases s.startRun_cases workflow workflowType input at_ with ⟨e, he⟩ | he
  · rw [he]
    exact ⟨hfail _ _ hs, hfail _ _ hs, hfail _ _ hs⟩
  · rw [he]
    exact ⟨hfail _ _ hs, hok _ hs, hok _ hs⟩

/-- Continuing fails and leaves the store alone, or replaces a running run by its successor. -/
theorem Triple.continueAsNew {R : Except ExecutorError RunInfo → Memory → Prop} (id : Uuid)
    (snapshot : Json) (at_ : Instant) (hfail : ∀ s e, P s → R (.error e) s)
    (hok : ∀ s r, P s → s.find? id = some r → r.info.status.isRunning = true →
      R (.ok ((s.drop id).insertRun r.info.workflow r.info.workflowType snapshot at_).1)
        ((s.drop id).insertRun r.info.workflow r.info.workflowType snapshot at_).2) :
    Triple P (Engine.stored (EventStore.continueAsNew id snapshot at_ : WorldM _)).run R := by
  refine Triple.stored ((Triple.guarded _ _ _).mono (fun s hs ↦ ?_) fun _ _ h ↦ h)
  rcases s.continueAsNew_cases id snapshot at_ with ⟨e, he⟩ | ⟨r, hfind, hrun, he⟩
  · rw [he]
    exact ⟨hfail _ _ hs, hfail _ _ hs, hfail _ _ hs⟩
  · rw [he]
    exact ⟨hfail _ _ hs, hok _ _ hs hfind hrun, hok _ _ hs hfind hrun⟩

/-- Closing fails and leaves the store alone, or closes a running run. -/
theorem Triple.closeRun {R : Except StoreError Unit → Memory → Prop} (id : Uuid)
    (status : Status) (reason : String) (hfail : ∀ s e, P s → R (.error e) s)
    (hok : ∀ s r, P s → s.find? id = some r → r.info.status.isRunning = true →
      R (.ok ()) (s.put id ⟨{ r.info with status }, r.events ++ (closingEvent status reason).toList⟩)) :
    Triple P (EventStore.closeRun id status reason : WorldM _) R := by
  refine (Triple.guarded _ _ _).mono (fun s hs ↦ ?_) fun _ _ h ↦ h
  rcases s.closeRun_cases id status reason with ⟨e, he⟩ | ⟨r, hfind, hrun, he⟩
  · rw [he]
    exact ⟨hfail _ _ hs, hfail _ _ hs, hfail _ _ hs⟩
  · rw [he]
    exact ⟨hfail _ _ hs, hok _ _ hs hfind hrun, hok _ _ hs hfind hrun⟩

end StoreCalls

end SlotKeeper.Engine
