import SlotKeeper.Engine.Loop
import SlotKeeper.Proofs.Store.Runs

/-!
# What the executor can do to the store

The executor changes the store only through its writes: it starts runs, appends to running runs,
continues running runs as new, and closes running runs as cancelled (its owner stopped the loop)
or terminated (an operator did). `ClosedUnderWrites I` says that a store property `I` survives
each of these writes, whether the write goes through or is refused. Every step of the executor
and of its run loop then keeps `I`: `Preserves I m` says that work `m`, from any world whose
store satisfies `I`, ends in one whose store does, and that it leaves the clock and the limits as
they were, since the executor reads both and sets neither.

Each function of the executor is stepped through once. `Effects R closes` says what its effects
do to a relation `R` between the world before and the world after: reading the world keeps it,
and so do delivering a signal and each store call, a close with a status in `closes`. For such a
relation `sendAll_stays`, ..., `runCancelled_stays` say that the whole function keeps it
(`Stays R`). `Preserves` is one instance (`ClosedUnderWrites.effects`); that signals only make
the bus grow is another, in the module on sending. The lemmas for the loop,
`Driving.begin_preserves` and `Driving.poll_preserves`, and for an operator's termination,
`terminate_preserves`, hold for every program, every wake-up and every fault plan.
-/

namespace SlotKeeper.Engine

open Json Workflow Store

/-- A store property that survives every write of the executor, whether the write goes through
or is refused. The executor closes runs only as cancelled or terminated. -/
structure ClosedUnderWrites (I : Memory → Prop) : Prop where
  startRun : ∀ m workflow workflowType input at_, I m →
    I (m.startRun workflow workflowType input at_).2
  appendEvents : ∀ m id expected events, I m → I (m.appendEvents id expected events).2
  continueAsNew : ∀ m id snapshot at_, I m → I (m.continueAsNew id snapshot at_).2
  closeRun : ∀ m id status reason, (status = .cancelled ∨ status = .terminated) → I m →
    I (m.closeRun id status reason).2

/-- Work `m` keeps the store property `I`, and leaves the clock and the limits as they are. -/
def Preserves {α : Type} (I : Memory → Prop) (m : WorldM α) : Prop :=
  ∀ w, (I w.store → I (m.run w).2.store) ∧ (m.run w).2.clock = w.clock ∧
    (m.run w).2.limits = w.limits

namespace Preserves

variable {α β : Type} {I : Memory → Prop}

theorem pure (a : α) : Preserves I (Pure.pure a : WorldM α) := fun _ ↦ ⟨id, rfl, rfl⟩

theorem bind {x : WorldM α} {f : α → WorldM β} (hx : Preserves I x)
    (hf : ∀ a, Preserves I (f a)) : Preserves I (x >>= f) := by
  intro w
  obtain ⟨hs, hc, hl⟩ := hx w
  obtain ⟨hs', hc', hl'⟩ := hf (x.run w).1 (x.run w).2
  rw [StateT.run_bind]
  exact ⟨hs' ∘ hs, hc'.trans hc, hl'.trans hl⟩

theorem get : Preserves I (MonadState.get : WorldM World) := fun _ ↦ ⟨id, rfl, rfl⟩

theorem onBus (f : Bus → Bus × α) : Preserves I (World.onBus f) := fun _ ↦ ⟨id, rfl, rfl⟩

theorem changeBus (f : Bus → Bus) : Preserves I (World.changeBus f) := fun _ ↦ ⟨id, rfl, rfl⟩

theorem deliver (target : String) (signal : Signal) :
    Preserves I (Host.deliver target signal : WorldM _) :=
  onBus _

/-- A store call through the fault plan keeps what its call keeps: an injected failure does not
reach the store. -/
theorem guarded (op : Operation) (call : Memory → Except StoreError α × Memory)
    (spoilt : α → α) (h : ∀ s, I s → I (call s).2) : Preserves I (World.guarded op call spoilt) := by
  intro w
  simp only [World.guarded, StateT.run_modifyGet]
  cases (w.faults.consult op).2 with
  | fail => exact ⟨id, rfl, rfl⟩
  | pass => exact ⟨h w.store, rfl, rfl⟩
  | dropFirst => exact ⟨h w.store, rfl, rfl⟩

end Preserves

/-! ### The store calls -/

section StoreCalls

variable {I : Memory → Prop}

theorem Preserves.currentRun (workflow : String) :
    Preserves I (EventStore.currentRun workflow : WorldM _) :=
  .guarded _ _ _ fun _ hs ↦ hs

theorem Preserves.loadEvents (id : Uuid) : Preserves I (EventStore.loadEvents id : WorldM _) :=
  .guarded _ _ _ fun _ hs ↦ hs

namespace ClosedUnderWrites

/-- Two properties the writes keep are kept together. -/
theorem and {J : Memory → Prop} (hI : ClosedUnderWrites I) (hJ : ClosedUnderWrites J) :
    ClosedUnderWrites fun m ↦ I m ∧ J m where
  startRun m _ _ _ _ h := ⟨hI.startRun m _ _ _ _ h.1, hJ.startRun m _ _ _ _ h.2⟩
  appendEvents m _ _ _ h := ⟨hI.appendEvents m _ _ _ h.1, hJ.appendEvents m _ _ _ h.2⟩
  continueAsNew m _ _ _ h := ⟨hI.continueAsNew m _ _ _ h.1, hJ.continueAsNew m _ _ _ h.2⟩
  closeRun m _ _ _ hs h := ⟨hI.closeRun m _ _ _ hs h.1, hJ.closeRun m _ _ _ hs h.2⟩

variable (hI : ClosedUnderWrites I)
include hI

theorem preserves_startRun (workflow workflowType : String) (input : Json) (at_ : Instant) :
    Preserves I (EventStore.startRun workflow workflowType input at_ : WorldM _) :=
  .guarded _ _ _ fun s hs ↦ hI.startRun s _ _ _ _ hs

theorem preserves_appendEvents (id : Uuid) (expected : Int) (events : List Event) :
    Preserves I (EventStore.appendEvents id expected events : WorldM _) :=
  .guarded _ _ _ fun s hs ↦ hI.appendEvents s _ _ _ hs

theorem preserves_continueAsNew (id : Uuid) (snapshot : Json) (at_ : Instant) :
    Preserves I (EventStore.continueAsNew id snapshot at_ : WorldM _) :=
  .guarded _ _ _ fun s hs ↦ hI.continueAsNew s _ _ _ hs

theorem preserves_closeRun (id : Uuid) {status : Status}
    (hstatus : status = .cancelled ∨ status = .terminated) (reason : String) :
    Preserves I (EventStore.closeRun id status reason : WorldM _) :=
  .guarded _ _ _ fun s hs ↦ hI.closeRun s _ _ _ hstatus hs

end ClosedUnderWrites

end StoreCalls

/-! ### The executor's effects -/

section Effects

variable {α β ε : Type}

/-- Work that takes every world to one related to it by `R`. -/
def Stays (R : World → World → Prop) (m : WorldM α) : Prop := ∀ w, R w (m.run w).2

/-- A relation between the world before and the world after that each effect of the executor
keeps: reading the world, delivering a signal, and each store call, a close only with a status in
`closes`. It is reflexive and transitive, so every function of the executor keeps it. -/
structure Effects (R : World → World → Prop) (closes : Status → Prop) : Prop where
  refl : ∀ w, R w w
  trans : ∀ {w₁ w₂ w₃}, R w₁ w₂ → R w₂ w₃ → R w₁ w₃
  deliver : ∀ target signal, Stays R (Host.deliver target signal : WorldM _)
  currentRun : ∀ workflow, Stays R (EventStore.currentRun workflow : WorldM _)
  loadEvents : ∀ id, Stays R (EventStore.loadEvents id : WorldM _)
  startRun : ∀ workflow workflowType input at_,
    Stays R (EventStore.startRun workflow workflowType input at_ : WorldM _)
  appendEvents : ∀ id expected events,
    Stays R (EventStore.appendEvents id expected events : WorldM _)
  continueAsNew : ∀ id snapshot at_,
    Stays R (EventStore.continueAsNew id snapshot at_ : WorldM _)
  closeRun : ∀ id {status}, closes status → ∀ reason,
    Stays R (EventStore.closeRun id status reason : WorldM _)

namespace Effects

variable {R : World → World → Prop} {closes : Status → Prop} (hR : Effects R closes)
include hR

theorem pure (a : α) : Stays R (Pure.pure a : WorldM α) := fun w ↦ hR.refl w

theorem bind {x : WorldM α} {f : α → WorldM β} (hx : Stays R x) (hf : ∀ a, Stays R (f a)) :
    Stays R (x >>= f) := by
  intro w
  rw [StateT.run_bind]
  exact hR.trans (hx w) (hf _ _)

theorem now : Stays R (Host.now : WorldM Instant) := fun w ↦ hR.refl w

theorem ebind {x : ExceptT ε WorldM α} {f : α → ExceptT ε WorldM β} (hx : Stays R x.run)
    (hf : ∀ a, Stays R (f a).run) : Stays R (x >>= f).run := by
  rw [ExceptT.run_bind]
  refine hR.bind hx fun r ↦ ?_
  cases r with
  | ok a => exact hf a
  | error e => exact hR.pure _

theorem epure (a : α) : Stays R (Pure.pure a : ExceptT ε WorldM α).run := fun w ↦ hR.refl w

theorem ethrow (e : ε) : Stays R (throw e : ExceptT ε WorldM α).run := fun w ↦ hR.refl w

theorem emk (r : Except ε α) : Stays R (ExceptT.mk (Pure.pure r) : ExceptT ε WorldM α).run :=
  fun w ↦ hR.refl w

omit hR in
theorem elift {x : WorldM α} (h : Stays R x) : Stays R (liftM x : ExceptT ε WorldM α).run := h

omit hR in
theorem map {x : WorldM α} (hx : Stays R x) (f : α → β) : Stays R (f <$> x) := by
  intro w
  rw [StateT.run_map]
  exact hx w

omit hR in
theorem stored {call : WorldM (Except StoreError α)} (h : Stays R call) :
    Stays R (Engine.stored call : ExceptT ExecutorError WorldM α).run :=
  map h _

end Effects

end Effects

/-! ### The executor

One lemma per function of the executor: it keeps every relation the effects keep. -/

section Executor

variable {ι σ : Type} (p : Program ι σ) {R : World → World → Prop} {closes : Status → Prop}
  (hR : Effects R closes)
include hR

theorem sendAll_stays (bestEffort : Bool) (actions : List Action) (n : Nat) :
    Stays R (sendAll bestEffort actions n : ExceptT ExecutorError WorldM Nat).run := by
  induction actions generalizing n with
  | nil => exact hR.epure n
  | cons a rest ih =>
    cases a with
    | idle => exact ih n
    | send target signal =>
      rw [sendAll]
      refine hR.ebind (Effects.elift (hR.deliver target signal)) fun r ↦ ?_
      cases r with
      | ok u => exact ih (n + 1)
      | error e =>
        dsimp only
        split
        · exact ih n
        · exact hR.ethrow _

theorem restored_stays (input : Json) :
    Stays R (restored p input : ExceptT ExecutorError WorldM σ).run := by
  unfold restored
  split
  · exact hR.epure _
  · exact hR.ethrow _

theorem deliver_stays (live : Live σ) (actions : List Action) (bestEffort : Bool) :
    Stays R (deliver live actions bestEffort : ExceptT ExecutorError WorldM (Live σ)).run := by
  unfold deliver
  exact hR.ebind (sendAll_stays hR _ _ _) fun _ ↦
    hR.ebind (Effects.stored (hR.appendEvents _ _ _)) fun _ ↦ hR.epure _

theorem process_stays (live : Live σ) (e : Event) :
    Stays R (process p live e : ExceptT ExecutorError WorldM (Live σ)).run := by
  unfold process
  refine hR.ebind (Effects.stored (hR.appendEvents _ _ _)) fun sequence ↦ ?_
  -- whatever the program answers, its actions are delivered only when there are some
  have hdeliver : ∀ (live : Live σ) (actions : List Action), Stays R
      (if actions.isEmpty then pure live else deliver live actions false :
        ExceptT ExecutorError WorldM (Live σ)).run := fun live actions ↦ by
    split
    · exact hR.epure _
    · exact deliver_stays hR _ _ _
  dsimp only
  split
  · exact hR.ebind (hR.epure _) fun ⟨_, _⟩ ↦ hdeliver _ _
  · exact hR.ebind (hR.ethrow _) fun ⟨_, _⟩ ↦ hdeliver _ _

theorem replay_stays (run : RunInfo) :
    Stays R (replay p run : ExceptT ExecutorError WorldM (Live σ)).run := by
  unfold replay
  refine hR.ebind (Effects.stored (hR.loadEvents _)) fun events ↦ ?_
  split
  · refine hR.ebind (restored_stays p hR _) fun s ↦ hR.ebind (hR.emk _) fun r ↦ ?_
    refine hR.ebind (Effects.elift hR.now) fun now ↦ ?_
    dsimp only
    split
    · exact hR.epure _
    · exact deliver_stays hR _ _ _
  · exact hR.ethrow _

theorem start_stays (workflow : String) (input : ι) :
    Stays R (recoverOrStart.start p workflow input : ExceptT ExecutorError WorldM (Live σ)).run := by
  unfold recoverOrStart.start
  exact hR.ebind (Effects.elift hR.now) fun _ ↦
    hR.ebind (Effects.stored (hR.startRun _ _ _ _)) fun _ ↦ hR.epure _

theorem recoverOrStart_stays (workflow : String) (input : ι) :
    Stays R (recoverOrStart p workflow input : ExceptT ExecutorError WorldM (Live σ)).run := by
  unfold recoverOrStart
  refine hR.ebind (Effects.stored (hR.currentRun _)) fun current ↦ ?_
  rcases current with _ | run
  · exact start_stays p hR workflow input
  · dsimp only
    split
    · split
      · exact hR.ethrow _
      · exact replay_stays p hR run
    · exact start_stays p hR workflow input

theorem continueAsNew_stays (live : Live σ) :
    Stays R (continueAsNew p live : ExceptT ExecutorError WorldM (Live σ)).run := by
  unfold continueAsNew
  exact hR.ebind (Effects.elift hR.now) fun _ ↦
    hR.ebind (Effects.stored (hR.continueAsNew _ _ _)) fun _ ↦
      hR.ebind (restored_stays p hR _) fun _ ↦ hR.epure _

theorem settle_stays (limits : Limits) (live : Live σ) :
    Stays R (settle p limits live : ExceptT ExecutorError WorldM (Live σ)).run := by
  unfold settle
  refine hR.ebind (Effects.elift hR.now) fun now ↦ ?_
  split
  · exact continueAsNew_stays p hR live
  · exact hR.epure _

theorem close_stays (run : RunInfo) {status : Status} (hstatus : closes status) (reason : String) :
    Stays R (close run status reason : ExceptT ExecutorError WorldM Unit).run := by
  unfold close
  refine hR.ebind (Effects.elift (hR.closeRun _ hstatus _)) fun r ↦ ?_
  split
  · exact hR.epure _
  · exact hR.epure _
  · exact hR.ethrow _

theorem handle_stays (hcancel : closes .cancelled) (workflow : String) (live : Live σ)
    (w : Wakeup) : Stays R (handle p workflow live w : ExceptT ExecutorError WorldM _).run := by
  cases w with
  | cancelled => exact hR.ebind (close_stays hR _ hcancel _) fun _ ↦ hR.epure _
  | displaced => exact hR.ethrow _
  | signal s =>
    exact hR.ebind (Effects.elift hR.now) fun _ ↦
      hR.ebind (process_stays p hR _ _) fun _ ↦ hR.epure _
  | timer =>
    exact hR.ebind (Effects.elift hR.now) fun _ ↦
      hR.ebind (process_stays p hR _ _) fun _ ↦ hR.epure _

/-- Terminating a workflow's latest run, as an operator does. -/
theorem terminate_stays (hterminate : closes .terminated) (workflow reason : String) :
    Stays R (terminate workflow reason : ExceptT ExecutorError WorldM _).run := by
  unfold terminate
  refine hR.ebind (Effects.stored (hR.currentRun _)) fun current ↦ ?_
  rcases current with _ | run
  · exact hR.epure _
  · dsimp only
    split
    · exact hR.ebind (Effects.stored (hR.closeRun _ hterminate _)) fun _ ↦ hR.epure _
    · exact hR.epure _

/-- Settling a run cancelled before its loop began, and closing it. -/
theorem runCancelled_stays (hcancel : closes .cancelled) (limits : Limits) (workflow : String)
    (input : ι) :
    Stays R (runCancelled p limits workflow input : ExceptT ExecutorError WorldM _).run := by
  unfold runCancelled
  exact hR.ebind (recoverOrStart_stays p hR _ _) fun _ ↦
    hR.ebind (settle_stays p hR _ _) fun _ ↦ close_stays hR _ hcancel _

end Executor

/-! ### What the writes keep -/

section Writes

variable {I : Memory → Prop}

/-- Work that keeps the relation of a store property `I` with the clock and limits unchanged
keeps `I`. -/
theorem Preserves.of_stays {α : Type} {m : WorldM α}
    (h : Stays (fun w w' ↦ (I w.store → I w'.store) ∧ w'.clock = w.clock ∧ w'.limits = w.limits)
      m) : Preserves I m :=
  h

/-- The executor's effects keep a store property its writes keep, and leave the clock and the
limits alone; it closes runs only as cancelled or terminated. -/
theorem ClosedUnderWrites.effects (hI : ClosedUnderWrites I) :
    Effects (fun w w' ↦ (I w.store → I w'.store) ∧ w'.clock = w.clock ∧ w'.limits = w.limits)
      fun status ↦ status = .cancelled ∨ status = .terminated where
  refl _ := ⟨id, rfl, rfl⟩
  trans h₁ h₂ := ⟨h₂.1 ∘ h₁.1, h₂.2.1.trans h₁.2.1, h₂.2.2.trans h₁.2.2⟩
  deliver := Preserves.deliver
  currentRun := Preserves.currentRun
  loadEvents := Preserves.loadEvents
  startRun := hI.preserves_startRun
  appendEvents := hI.preserves_appendEvents
  continueAsNew := hI.preserves_continueAsNew
  closeRun id _ hstatus reason := hI.preserves_closeRun id hstatus reason

variable {ι σ : Type} (p : Program ι σ) (hI : ClosedUnderWrites I)
include hI

/-- Terminating a workflow's latest run, as an operator does, keeps what the writes keep. -/
theorem terminate_preserves (workflow reason : String) :
    Preserves I (terminate workflow reason : ExceptT ExecutorError WorldM _).run :=
  .of_stays (terminate_stays hI.effects (.inr rfl) workflow reason)

/-! ### The run loop -/

namespace Driving

omit hI in
theorem stop_preserves (d : Driving σ) (outcome : Except ExecutorError Unit) :
    Preserves I (d.stop outcome) :=
  .bind (.changeBus _) fun _ ↦ .pure _

theorem rest_preserves (d : Driving σ) : Preserves I (rest p d) := by
  unfold rest
  refine .bind .get fun w ↦ .bind (.of_stays (settle_stays p hI.effects _ _)) fun r ↦ ?_
  cases r with
  | ok live => exact .pure _
  | error e => exact stop_preserves d _

theorem begin_preserves (workflow : String) (input : ι) : Preserves I (begin p workflow input) := by
  unfold begin
  refine .bind (.onBus _) fun g ↦ .bind (.of_stays (recoverOrStart_stays p hI.effects _ _))
    fun r ↦ ?_
  cases r with
  | ok live => exact rest_preserves p hI _
  | error e => exact .bind (.changeBus _) fun _ ↦ .pure _

theorem react_preserves (d : Driving σ) (w : Wakeup) : Preserves I (poll.react p d w) := by
  unfold poll.react
  refine .bind (.of_stays (handle_stays p hI.effects (.inl rfl) _ _ _)) fun r ↦ ?_
  rcases r with e | _ | live
  · exact stop_preserves d _
  · exact stop_preserves d _
  · exact rest_preserves p hI _

/-- Every wake-up of a run loop keeps what the executor's writes keep. -/
theorem poll_preserves (cancelled : Bool) (d : Driving σ) : Preserves I (d.poll p cancelled) := by
  unfold poll
  split
  · refine .bind (.of_stays (handle_stays p hI.effects (.inl rfl) _ _ _)) fun r ↦ ?_
    cases r with
    | ok _ => exact stop_preserves d _
    | error e => exact stop_preserves d _
  · refine .bind (.onBus _) fun item ↦ ?_
    rcases item with _ | (q | s | _)
    · exact .bind .get fun w ↦ by
        split
        · exact react_preserves p hI d _
        · exact .pure _
    · exact .bind (.changeBus _) fun _ ↦ .pure _
    · exact react_preserves p hI d _
    · exact stop_preserves d _

end Driving

end Writes

end SlotKeeper.Engine
