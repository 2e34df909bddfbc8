import SlotKeeper.Proofs.Engine.Frame
import SlotKeeper.Proofs.Engine.Pacing
import SlotKeeper.Proofs.Store.Registry
import SlotKeeper.Proofs.Pool.Reclaim

/-!
# Terminating a workflow and starting it afresh

What an operator relies on to replace a workflow's run: terminating it leaves no run of the
workflow running, and a loop that begins afterwards starts a fresh run and drives it.

* `Memory.Follows m₀ m` is what the executor's writes make of a store `m₀`: a run `m₀` kept is
  kept with its workflow and either its status or, if it was running, cancelled or terminated
  (or it is gone, dropped by a continuation); a run `m₀` did not keep is running, cancelled or
  terminated. Every write keeps it (`Memory.Follows.closedUnderWrites`), and so does the
  registry of the store (`Registered.closedUnderWrites`).
* `terminate_idles`: a termination that answers leaves no running run of the workflow, and one
  that fails fails on a store call.
* `begin_fresh`: on a store where the workflow has no running run, a loop that begins at an
  instant `t` with an event bound of two or more either ends with that still so, or waits with
  a fresh run (`Fresh`): filed at `t` with its start alone, in the program's fresh state for the
  input, under an id the earlier store `m₀` never kept, and the only running run of its
  workflow. Both hold for every program and every fault plan.
-/

namespace SlotKeeper

namespace Store

open Json Workflow Engine

/-- Ids from the counter on were never kept. -/
theorem Kept.find?_minted_of_le {m : Memory} (h : Kept m) {k : Nat} (hk : m.minted ≤ k) :
    m.find? (Uuid.minted k) = none := by
  rw [Memory.find?_eq_none_iff]
  intro hmem
  obtain ⟨e, he, hkey⟩ := List.mem_map.mp hmem
  obtain ⟨j, hj, hej⟩ := h.minted e he
  have := Uuid.minted_injective (hej.symm.trans hkey)
  omega

namespace Memory

/-- No run of `workflow` is running. -/
def Idle (m : Memory) (workflow : String) : Prop :=
  ∀ id r, m.find? id = some r → r.info.workflow = workflow → r.info.status.isRunning = false

/-- Cancelled or terminated: how the executor closes a run. -/
def Stopped (s : Status) : Prop := s = .cancelled ∨ s = .terminated

/-- What the executor's writes make of a store `m₀`: ids are minted on from its counter; a run
of `m₀` still kept has its workflow and its status, or was running and is stopped; and a run
`m₀` did not keep is running or stopped. -/
structure Follows (m₀ m : Memory) : Prop where
  minted : m₀.minted ≤ m.minted
  kept : ∀ id r₀ r, m₀.find? id = some r₀ → m.find? id = some r →
    r.info.workflow = r₀.info.workflow ∧ (r.info.status = r₀.info.status ∨
      r₀.info.status.isRunning = true ∧ Stopped r.info.status)
  new : ∀ id r, m₀.find? id = none → m.find? id = some r →
    r.info.status = .running ∨ Stopped r.info.status

namespace Follows

variable {m₀ m : Memory}

theorem refl (m₀ : Memory) : Follows m₀ m₀ where
  minted := Nat.le_refl _
  kept _ _ _ h₀ h := by
    rw [h₀, Option.some.injEq] at h
    subst h
    exact ⟨rfl, .inl rfl⟩
  new _ _ h₀ h := by
    rw [h₀] at h
    cases h

/-- Replacing a kept run by one of the same workflow with its status, or stopping it when it is
running. -/
theorem put (h : Follows m₀ m) {id : Uuid} {r r' : StoredRun} (hfind : m.find? id = some r)
    (hwf : r'.info.workflow = r.info.workflow)
    (hst : r'.info.status = r.info.status ∨
      r.info.status.isRunning = true ∧ Stopped r'.info.status) :
    Follows m₀ (m.put id r') where
  minted := h.minted
  kept id' r₀ r'' h₀ hfind' := by
    rcases Memory.find?_put_eq_some hfind' with ⟨rfl, rfl⟩ | hold
    · obtain ⟨hwf₀, hst₀⟩ := h.kept id' r₀ r h₀ hfind
      refine ⟨hwf.trans hwf₀, ?_⟩
      rcases hst with hsame | ⟨hrun, hstop⟩
      · rw [hsame]
        exact hst₀
      · -- the run was running, so it was running in `m₀` already or had been stopped there
        rcases hst₀ with hsame₀ | ⟨hrun₀, -⟩
        · exact .inr ⟨hsame₀ ▸ hrun, hstop⟩
        · exact .inr ⟨hrun₀, hstop⟩
    · exact h.kept id' r₀ r'' h₀ hold
  new id' r'' h₀ hfind' := by
    rcases Memory.find?_put_eq_some hfind' with ⟨rfl, rfl⟩ | hold
    · rcases hst with hsame | ⟨-, hstop⟩
      · rw [hsame]
        exact h.new id' r h₀ hfind
      · exact .inr hstop
    · exact h.new id' r'' h₀ hold

theorem drop (h : Follows m₀ m) (id : Uuid) : Follows m₀ (m.drop id) where
  minted := h.minted
  kept id' r₀ r h₀ hfind := h.kept id' r₀ r h₀ (Memory.find?_drop_eq_some hfind)
  new id' r h₀ hfind := h.new id' r h₀ (Memory.find?_drop_eq_some hfind)

/-- A fresh run goes under an id `m₀` never kept. -/
theorem insertRun (h : Follows m₀ m) (h₀ : Kept m₀) (workflow workflowType : String)
    (input : Json) (at_ : Instant) : Follows m₀ (m.insertRun workflow workflowType input at_).2 where
  minted := Nat.le_succ_of_le h.minted
  kept id r₀ r hfind₀ hfind := by
    rw [Memory.find?_insertRun] at hfind
    by_cases hid : id = Uuid.minted m.minted
    · rw [hid, h₀.find?_minted_of_le h.minted] at hfind₀
      cases hfind₀
    · rw [if_neg hid] at hfind
      exact h.kept id r₀ r hfind₀ hfind
  new id r hfind₀ hfind := by
    rcases Memory.find?_insertRun_eq_some hfind with rfl | hold
    · exact .inl rfl
    · exact h.new id r hfind₀ hold

/-- Every write of the executor keeps what it makes of `m₀`. -/
theorem closedUnderWrites (h₀ : Kept m₀) : ClosedUnderWrites (Follows m₀) where
  startRun m workflow workflowType input at_ h := by
    rcases m.startRun_cases workflow workflowType input at_ with ⟨e, he⟩ | he
    · rw [he]
      exact h
    · rw [he]
      exact h.insertRun h₀ _ _ _ _
  appendEvents m id expected events h := by
    rcases m.appendEvents_cases id expected events with ⟨e, he⟩ | ⟨r, hfind, -, n, he⟩
    · rw [he]
      exact h
    · rw [he]
      exact h.put hfind rfl (.inl rfl)
  continueAsNew m id snapshot at_ h := by
    rcases m.continueAsNew_cases id snapshot at_ with ⟨e, he⟩ | ⟨r, -, -, he⟩
    · rw [he]
      exact h
    · rw [he]
      exact (h.drop id).insertRun h₀ _ _ _ _
  closeRun m id status reason hstatus h := by
    rcases m.closeRun_cases id status reason with ⟨e, he⟩ | ⟨r, hfind, hrun, he⟩
    · rw [he]
      exact h
    · rw [he]
      exact h.put hfind rfl (.inr ⟨hrun, hstatus⟩)

end Follows

end Memory

namespace Registered

variable {m : Memory}

/-- Every write keeps the registry. -/
theorem closedUnderWrites : ClosedUnderWrites Registered where
  startRun _ _ _ _ _ h := h.apply (.startRun _ _ _ _)
  appendEvents _ _ _ _ h := h.apply (.appendEvents _ _ _)
  continueAsNew _ _ _ _ h := h.apply (.continueAsNew _ _ _)
  closeRun _ _ _ _ _ h := h.apply (.closeRun _ _ _)

/-- The current run of a workflow is a kept run of that workflow. -/
theorem current_kept (h : Registered m) {workflow : String} {info : RunInfo}
    (hcur : m.currentRun workflow = some info) :
    ∃ r, m.find? info.run = some r ∧ r.info = info ∧ r.info.workflow = workflow := by
  rw [Memory.currentRun_eq] at hcur
  obtain ⟨id, hlatest, hid⟩ := Option.bind_eq_some_iff.mp hcur
  obtain ⟨r, hfind, rfl⟩ := Option.map_eq_some_iff.mp hid
  obtain ⟨r', hfind', hwf⟩ := h.latest workflow id hlatest
  rw [hfind, Option.some.injEq] at hfind'
  subst hfind'
  rw [h.filed id r hfind]
  exact ⟨r, hfind, rfl, hwf⟩

/-- A running run of a workflow is its current run. -/
theorem current_of_running (h : Registered m) {workflow : String} {id : Uuid} {r : StoredRun}
    (hfind : m.find? id = some r) (hwf : r.info.workflow = workflow)
    (hrun : r.info.status.isRunning = true) : m.currentRun workflow = some r.info := by
  rw [← hwf]
  exact h.currentRun_running hfind hrun

/-- A workflow whose current run, if any, is closed has no running run. -/
theorem idle_of_current (h : Registered m) {workflow : String}
    (hcur : ∀ info, m.currentRun workflow = some info → info.status.isRunning = false) :
    m.Idle workflow := by
  intro id r hfind hwf
  cases hrun : r.info.status.isRunning with
  | false => rfl
  | true => exact absurd (hcur r.info (h.current_of_running hfind hwf hrun)) (by rw [hrun]; decide)

/-- Closing the current run of a workflow leaves the workflow no running run. -/
theorem idle_of_closing_current (h : Registered m) {workflow : String} {run : RunInfo}
    (hcur : m.currentRun workflow = some run) {r : StoredRun}
    (hclosed : r.info.status.isRunning = false) : (m.put run.run r).Idle workflow := by
  intro id r' hfind hwf
  by_cases hid : id = run.run
  · rw [hid, Memory.find?_put_self, Option.some.injEq] at hfind
    subst hfind
    exact hclosed
  · rw [Memory.find?_put, if_neg hid] at hfind
    cases hrun : r'.info.status.isRunning with
    | false => rfl
    | true =>
      -- a running run is the current one, and that is the run closed
      rw [h.current_of_running hfind hwf hrun, Option.some.injEq] at hcur
      exact absurd (hcur ▸ h.filed id r' hfind).symm hid

end Registered

end Store

namespace Engine

open Json Workflow Store

variable {t : Instant} {limits : Limits}

/-- Work whose precondition carries a fact about its arguments can use that fact. -/
theorem Timed.assume {α : Type} {P : Memory → Prop} {m : WorldM α} {Q : α → Memory → Prop}
    {fact : Prop} (h : fact → Timed t limits P m Q) (hfact : ∀ s, P s → fact) :
    Timed t limits P m Q :=
  fun w hc hl hw ↦ h (hfact _ hw) w hc hl hw

/-- A timed triple carries along a store property that the work keeps. -/
theorem Timed.and_preserves {α : Type} {P I : Memory → Prop} {m : WorldM α}
    {Q : α → Memory → Prop} (h : Timed t limits P m Q) (hI : Preserves I m) :
    Timed t limits (fun s ↦ P s ∧ I s) m fun a s ↦ Q a s ∧ I s := by
  intro w hc hl ⟨hp, hi⟩
  obtain ⟨hc', hl', hq⟩ := h w hc hl hp
  exact ⟨hc', hl', hq, (hI w).1 hi⟩

/-! ### Termination -/

/-- A termination that answers leaves the workflow no running run; one that fails, fails on a
store call. -/
theorem terminate_idles (workflow reason : String) :
    Timed t limits Registered (terminate workflow reason : ExceptT ExecutorError WorldM _).run
      fun r m ↦ match r with
        | .ok _ => m.Idle workflow
        | .error e => ∃ e', e = .store e' := by
  unfold terminate
  refine Timed.ebind (M := fun current m ↦ Registered m ∧ m.currentRun workflow = current)
    (Timed.currentRun _ (fun _ _ ↦ ⟨_, rfl⟩) fun _ h ↦ ⟨h, rfl⟩) fun current ↦ ?_
  rcases current with _ | run
  · refine (Timed.epure _).mono (fun m ⟨h, hcur⟩ ↦ h.idle_of_current fun info hinfo ↦ ?_)
      fun _ _ h ↦ h
    rw [hcur] at hinfo
    cases hinfo
  dsimp only
  by_cases hrun : run.status.isRunning = true
  · rw [if_pos hrun]
    refine Timed.ebind (M := fun _ m ↦ m.Idle workflow)
      (Timed.stored (Timed.closeRun _ _ _ (fun _ e _ _ ↦ ⟨e, rfl⟩) ?_))
      fun _ ↦ (Timed.epure _).mono (fun _ h ↦ h) fun _ _ h ↦ h
    rintro m r ⟨h, hcur⟩ - -
    exact h.idle_of_closing_current hcur rfl
  · rw [if_neg hrun]
    refine (Timed.epure _).mono (fun m ⟨h, hcur⟩ ↦ h.idle_of_current fun info hinfo ↦ ?_)
      fun _ _ h ↦ h
    rw [hcur, Option.some.injEq] at hinfo
    subst hinfo
    simpa using hrun

/-! ### A fresh start -/

section Start

variable {ι σ : Type} (p : Program ι σ)

/-- A store where a start of `workflow` goes through: registered, with no running run of the
workflow, and minting past every id of `m₀`. -/
structure Vacant (m₀ : Memory) (workflow : String) (m : Memory) : Prop where
  registered : Registered m
  idle : m.Idle workflow
  minted : m₀.minted ≤ m.minted

/-- A live run just started for `workflow` from `input` at `t`: kept with its start alone and
running, at position one in the program's fresh state for `input`, under an id `m₀` never
kept, and the only running run of its workflow. -/
structure Fresh (workflow : String) (input : ι) (t : Instant) (m₀ : Memory) (live : Live σ)
    (m : Memory) : Prop where
  stored : m.find? live.run.run = some ⟨live.run, [.started (p.encode input) t]⟩
  named : live.run.workflow = workflow
  running : live.run.status = .running
  startedAt : live.run.startedAt = t
  sequence : live.sequence = 1
  state : live.state = p.new input
  unseen : m₀.find? live.run.run = none
  only : ∀ id r, m.find? id = some r → r.info.workflow = workflow →
    r.info.status.isRunning = true → id = live.run.run

variable {p} {m₀ : Memory}

/-- The current run found by a start on a vacant store is closed. -/
theorem Vacant.current_closed {workflow : String} {m : Memory} (hv : Vacant m₀ workflow m)
    {info : RunInfo} (hcur : m.currentRun workflow = some info) : info.status.isRunning = false := by
  obtain ⟨r, hfind, rfl, hwf⟩ := hv.registered.current_kept hcur
  exact hv.idle _ r hfind hwf

/-- Filing a run on a vacant store makes a fresh run. -/
theorem Vacant.insertRun_fresh (h₀ : Store.Kept m₀) {workflow : String} {m : Memory}
    (hv : Vacant m₀ workflow m) (input : ι) (t : Instant) :
    Fresh p workflow input t m₀
      ⟨(m.insertRun workflow p.typeName (p.encode input) t).1, p.new input, 1,
        tickAfter t (p.interval (p.new input))⟩
      (m.insertRun workflow p.typeName (p.encode input) t).2 where
  stored := Memory.find?_insertRun_self _ _ _ _ _
  named := rfl
  running := rfl
  startedAt := rfl
  sequence := rfl
  state := rfl
  unseen := h₀.find?_minted_of_le hv.minted
  only id r hfind hwf hrun := by
    rw [Memory.find?_insertRun] at hfind
    by_cases hid : id = Uuid.minted m.minted
    · exact hid
    · rw [if_neg hid] at hfind
      rw [hv.idle id r hfind hwf] at hrun
      cases hrun

/-- A start on a vacant store files a fresh run, or fails and leaves the workflow idle. -/
theorem start_fresh (h₀ : Store.Kept m₀) (workflow : String) (input : ι) :
    Timed t limits (Vacant m₀ workflow)
      (recoverOrStart.start p workflow input : ExceptT ExecutorError WorldM (Live σ)).run
      fun r m ↦ match r with
        | .ok live => Fresh p workflow input t m₀ live m
        | .error _ => m.Idle workflow := by
  unfold recoverOrStart.start
  refine Timed.after_now ?_
  refine Timed.ebind (M := fun run m ↦ Fresh p workflow input t m₀
      ⟨run, p.new input, 1, tickAfter run.startedAt (p.interval (p.new input))⟩ m)
    (Timed.startRun _ _ _ _ (fun _ _ hv _ ↦ hv.idle) fun m hv ↦ hv.insertRun_fresh h₀ input t)
    fun run ↦ (Timed.epure _).mono (fun _ h ↦ h) fun _ _ h ↦ h

theorem recoverOrStart_fresh (h₀ : Store.Kept m₀) (workflow : String) (input : ι) :
    Timed t limits (Vacant m₀ workflow)
      (recoverOrStart p workflow input : ExceptT ExecutorError WorldM (Live σ)).run
      fun r m ↦ match r with
        | .ok live => Fresh p workflow input t m₀ live m
        | .error _ => m.Idle workflow := by
  unfold recoverOrStart
  refine Timed.ebind (M := fun current m ↦ Vacant m₀ workflow m ∧ m.currentRun workflow = current)
    (Timed.currentRun _ (fun _ hv ↦ hv.idle) fun _ hv ↦ ⟨hv, rfl⟩) fun current ↦ ?_
  rcases current with _ | run
  · exact (start_fresh h₀ workflow input).mono (fun _ h ↦ h.1) fun _ _ h ↦ h
  dsimp only
  -- the current run is closed, so nothing is recovered
  refine Timed.assume (fun hclosed : run.status.isRunning = false ↦ ?_)
    fun _ ⟨hv, hcur⟩ ↦ hv.current_closed hcur
  rw [if_neg (by rw [hclosed]; decide)]
  exact (start_fresh h₀ workflow input).mono (fun _ h ↦ h.1) fun _ _ h ↦ h

/-- A run at position one started at the instant of the check is not due for continuation
under an event bound of two or more. -/
theorem dueForContinuation_fresh (hmax : 2 ≤ limits.maxEvents) {live : Live σ}
    (hseq : live.sequence = 1) : dueForContinuation limits live.run.startedAt live = false := by
  simp only [dueForContinuation, Instant.elapsedSince_self, hseq, Bool.or_eq_false_iff,
    decide_eq_false_iff_not]
  refine ⟨fun h ↦ Nat.not_lt_zero _ h, ?_⟩
  have hone : positionCount 1 = 1 := rfl
  omega

/-- A loop resting right after its run started keeps waiting on it. -/
theorem Driving.rest_run_fresh (d : Driving σ) (w : World) (hmax : 2 ≤ w.limits.maxEvents)
    (hseq : d.live.sequence = 1) (hstart : d.live.run.startedAt = w.clock.now) :
    (Driving.rest p d).run w = (.waiting d, w) := by
  have hsettle : (settle p w.limits d.live : ExceptT ExecutorError WorldM _).run.run w =
      (.ok d.live, w) := by
    unfold settle
    rw [run_after_now, ← hstart, if_neg (by rw [dueForContinuation_fresh hmax hseq]; decide)]
    rfl
  unfold Driving.rest
  simp only [StateT.run_bind, StateT.run_get, pure_bind]
  rw [hsettle]
  rfl

/-- A loop that begins on a vacant store waits on a fresh run, or ends and leaves the workflow
idle. -/
theorem begin_fresh (h₀ : Store.Kept m₀) (hmax : 2 ≤ limits.maxEvents) (workflow : String)
    (input : ι) :
    Timed t limits (Vacant m₀ workflow) (Driving.begin p workflow input)
      fun progress m ↦ match progress with
        | .waiting d => Fresh p workflow input t m₀ d.live m
        | .finished _ => m.Idle workflow := by
  unfold Driving.begin
  refine Timed.bind ((Timed.onBus _).mono (fun _ h _ ↦ h) fun _ _ h ↦ h) fun g ↦ ?_
  refine Timed.bind (recoverOrStart_fresh h₀ workflow input) fun r ↦ ?_
  cases r with
  | ok live =>
    intro w hc hl hfresh
    rw [Driving.rest_run_fresh ⟨workflow, g, live⟩ w (hl ▸ hmax) hfresh.sequence
      (hfresh.startedAt.trans hc.symm)]
    exact ⟨hc, hl, hfresh⟩
  | error e =>
    exact Timed.bind (Timed.changeBus _) fun _ ↦ (Timed.pure _).mono (fun _ h ↦ h) fun _ _ h ↦ h

end Start

end Engine

end SlotKeeper
