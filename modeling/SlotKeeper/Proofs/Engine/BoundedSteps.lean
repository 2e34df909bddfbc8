import SlotKeeper.Engine.Loop
import SlotKeeper.Proofs.Engine.Bounded

/-!
# Every step of the executor keeps its history bounded

One timed triple for each function of the executor and of its run loop, at an instant `t`
outside leap seconds and under an event bound of two or more: work started on a bounded store
leaves it bounded and never fails on a concurrency conflict (`Holds`, and `Held` for the loop).

The loop's run goes round three states. Between wake-ups it is `Poised`: at the store's
position, below the threshold, with no late input. An input appended to it leaves it `Pending`
until its marker is written, and either way it is `Ripe` at the loop's check. The check makes it
poised again (`settle_holds`): a run that is neither old nor due by its count is poised as it
stands, and a run that is either is continued as new into a successor holding its start alone.
Since the clock reads `t` throughout a step, an input stamped when its run was already old is
followed by a check that finds the run old.

Of the store's answers only an append at another position than the run's is a conflict, and a
loop whose run is poised appends at the run's position.
-/

namespace SlotKeeper.Engine

open Json Workflow Store

/-! ### What executor work keeps -/

variable {ι σ : Type} {p : Program ι σ} {limits : Limits} {t : Instant}

/-- A result that is no failure on a concurrency conflict of the store. -/
def Unconflicted {α : Type} : Except ExecutorError α → Prop
  | .ok _ => True
  | .error e => ∀ x y, e ≠ .store (.conflict x y)

/-- What executor work keeps at the instant `t`: the store bounded, a result satisfying `P`, and
no failure on a conflict. -/
def Holds {α : Type} (limits : Limits) (t : Instant) (P : α → Memory → Prop) :
    Except ExecutorError α → Memory → Prop
  | .ok a, m => Bounded limits t m ∧ P a m
  | .error e, m => Bounded limits t m ∧ ∀ x y, e ≠ .store (.conflict x y)

section Holds

variable {α : Type} {P : α → Memory → Prop} {m : Memory}

theorem Holds.store (hb : Bounded limits t m) {e : StoreError} (he : ∀ x y, e ≠ .conflict x y) :
    Holds limits t P (.error (.store e)) m :=
  ⟨hb, fun x y h ↦ he x y (ExecutorError.store.inj h)⟩

theorem Holds.other (hb : Bounded limits t m) {e : ExecutorError} (he : ∀ s, e ≠ .store s) :
    Holds limits t P (.error e) m :=
  ⟨hb, fun _ _ ↦ he _⟩

/-- Failing with an error of the executor's own keeps the store bounded and is no conflict. -/
theorem Timed.throw_holds {Q : Memory → Prop} {e : ExecutorError} (he : ∀ s, e ≠ .store s) :
    Timed t limits (fun m ↦ Bounded limits t m ∧ Q m)
      (throw e : ExceptT ExecutorError WorldM α).run (Holds limits t P) :=
  (Timed.ethrow e).mono (fun _ h ↦ Holds.other h.1 he) fun _ _ h ↦ h

end Holds

/-- Sending leaves the store alone; it fails only with a delivery error, never on a conflict. -/
theorem Timed.sendAll {P : Memory → Prop} (bestEffort : Bool) (actions : List Action) (n : Nat) :
    Timed t limits P (sendAll bestEffort actions n : ExceptT ExecutorError WorldM Nat).run
      fun r s ↦ P s ∧ Unconflicted r := by
  induction actions generalizing n with
  | nil => exact (Timed.epure n).mono (fun _ h ↦ ⟨h, trivial⟩) fun _ _ h ↦ h
  | cons a rest ih =>
    cases a with
    | idle => exact ih n
    | send target signal =>
      rw [Engine.sendAll]
      refine Timed.ebind (M := fun _ ↦ P)
        (Timed.elift ((Timed.deliver target signal).mono (fun _ h _ ↦ h) fun _ _ h ↦ h)) ?_
      rintro (e | ⟨⟩)
      · dsimp only
        by_cases hb : bestEffort = true
        · rw [if_pos hb]
          exact ih n
        · rw [if_neg hb]
          exact (Timed.ethrow _).mono (fun _ h ↦ ⟨h, fun _ _ h ↦ nomatch h⟩) fun _ _ h ↦ h
      · exact ih (n + 1)

/-- Delivering the actions of a pending input writes its marker; the run is ripe after it. -/
theorem deliver_holds (live : Live σ) (actions : List Action) (bestEffort : Bool) :
    Timed t limits (fun s ↦ Bounded limits t s ∧ Pending limits live s)
      (deliver live actions bestEffort).run (Holds limits t Ripe) := by
  unfold deliver
  refine Timed.ebind_of (Timed.sendAll bestEffort actions 0) (fun _ _ h ↦ ⟨h.1.1, h.2⟩)
    fun count ↦ ?_
  refine Timed.ebind (M := fun sequence s ↦ Bounded limits t s ∧ Ripe { live with sequence } s)
    (Timed.appendEvents _ _ _ ?_ ?_) fun sequence ↦ Timed.epure (R := Holds limits t Ripe) _
  · rintro s e ⟨⟨hb, r, pre, last, hfind, -, -, hseq, -⟩, -⟩ hconflict
    refine Holds.store hb fun x y hc ↦ ?_
    obtain ⟨r', hfind', -, hne⟩ := hconflict x y hc
    rw [hfind, Option.some.injEq] at hfind'
    subst hfind'
    exact hne hseq.symm
  · rintro s r ⟨⟨hb, r₀, pre, last, hfind₀, hinfo, -, -, hlen, hlast, hinput⟩, -⟩ hfind hrun -
    rw [hfind₀, Option.some.injEq] at hfind
    subst hfind
    refine ⟨hb.appendDelivered hfind₀ hrun hlen hlast hinput count, _,
      Memory.find?_put_self _ _ _, hinfo, hrun, ?_⟩
    rw [List.length_append]

/-- Processing an input stamped at `t` on a poised run appends it, and its marker if it calls for
actions; the run is ripe after them. -/
theorem process_holds {live : Live σ} {e : Event} (he : e.isInput = true)
    (hstamp : e.StampedBy t) :
    Timed t limits (fun s ↦ Bounded limits t s ∧ Poised limits live s) (process p live e).run
      (Holds limits t Ripe) := by
  unfold process
  refine Timed.ebind
    (M := fun sequence s ↦ Bounded limits t s ∧ Pending limits { live with sequence } s)
    (Timed.appendEvents _ _ _ ?_ ?_) fun sequence ↦ ?_
  · rintro s err ⟨hb, hpoised⟩ hconflict
    refine Holds.store hb fun x y hc ↦ ?_
    obtain ⟨r, hfind, hrun, hne⟩ := hconflict x y hc
    exact hne (hpoised r hfind hrun).2.1.symm
  · rintro s r ⟨hb, hpoised⟩ hfind hrun -
    obtain ⟨hinfo, -, hbelow, hlate⟩ := hpoised r hfind hrun
    refine ⟨hb.appendInput hfind hrun hbelow hlate he hstamp, _, r.events, e,
      Memory.find?_put_self _ _ _, hinfo, hrun, by rw [List.length_append], fun hcap ↦ ?_, rfl, he⟩
    rw [List.length_append, List.length_singleton]
    exact hbelow hcap
  dsimp only
  cases happly : p.apply live.state e with
  | error fault =>
    dsimp only
    rw [ExceptT.bind_throw]
    exact Timed.throw_holds fun _ h ↦ nomatch h
  | ok res =>
  obtain ⟨state, actions⟩ := res
  simp only [pure_bind]
  by_cases hempty : actions.isEmpty = true
  · rw [if_pos hempty]
    exact (Timed.epure _).mono (fun _ h ↦ ⟨h.1, h.2.ripe⟩) fun _ _ h ↦ h
  · rw [if_neg hempty]
    exact (deliver_holds { live with sequence, state } actions false).mono
      (fun _ h ↦ h) fun _ _ h ↦ h

theorem Timed.restored {P : Memory → Prop} {R : Except ExecutorError σ → Memory → Prop}
    (p : Program ι σ) (input : Json)
    (hok : ∀ s₀ m, p.restore input = .ok s₀ → P m → R (.ok s₀) m)
    (hfail : ∀ message m, P m → R (.error (.serialization message)) m) :
    Timed t limits P (Engine.restored p input : ExceptT ExecutorError WorldM σ).run R := by
  unfold Engine.restored
  split
  · next s₀ hrestore => exact (Timed.epure s₀).mono (hok s₀ · hrestore) fun _ _ h ↦ h
  · exact (Timed.ethrow _).mono (hfail _) fun _ _ h ↦ h

/-- Replay fails on a crash or a terminal event, never in the store. -/
theorem replayInputs_error (run : RunInfo) {s : σ} {pending : List Action} {body : List Event}
    {e : ExecutorError} (h : replayInputs p run s pending body = .error e) (st : StoreError) :
    e ≠ .store st := by
  induction body generalizing s pending with
  | nil => cases h
  | cons ev rest ih =>
    unfold replayInputs at h
    split at h <;> (try split at h) <;> first
      | exact ih h
      | (cases h; intro h; cases h)

/-- A log loaded from its start is the whole log: without its first event it would start with an
input or a marker. -/
theorem Written.loaded {r : StoredRun} (h : Written r) {loaded body : List Event} {input : Json}
    {at_ : Instant} (hloaded : loaded = r.events ∨ loaded = r.events.tail)
    (hstart : loaded = .started input at_ :: body) : r.events = .started input at_ :: body := by
  obtain ⟨input₀, at₀, body₀, hevents, hkinds, -⟩ := h
  rcases hloaded with hwhole | htail
  · rw [← hwhole, hstart]
  · rw [hevents, List.tail_cons] at htail
    have hkind := hkinds (.started input at_) (by rw [← htail, hstart]; exact List.mem_cons_self)
    rcases hkind with hinput | ⟨n, hn⟩
    · cases hinput
    · cases hn

/-- A replay that leaves actions pending leaves the run pending their marker: they are the
actions of a last input that no marker follows. -/
theorem Bounded.pending_of_replay {m : Memory} (hb : Bounded limits t m) {live : Live σ}
    {r : StoredRun} (hfind : m.find? live.run.run = some r) (hinfo : r.info = live.run)
    (hrun : r.info.status.isRunning = true)
    (hseq : live.sequence = Memory.sequenceOf r.events.length) {input : Json} {at_ : Instant}
    {body : List Event} (hevents : r.events = .started input at_ :: body) {s₀ s : σ}
    {pending : List Action} (hreplay : replayInputs p live.run s₀ [] body = .ok (s, pending))
    (hne : pending ≠ []) : Pending limits live m := by
  obtain ⟨pre, e, hbody, hlast⟩ : ∃ pre e, body = pre ++ [e] ∧ ∀ n, e ≠ .delivered n := by
    rcases replayInputs_pending _ hreplay hne with ⟨-, hnil⟩ | hlast
    · exact absurd hnil hne
    · exact hlast
  have hends : r.events = (.started input at_ :: pre) ++ [e] := by
    rw [hevents, hbody]
    rfl
  have hinput : e.isInput = true := by
    obtain ⟨input₀, at₀, body₀, hevents₀, hkinds, -⟩ := hb.written _ r hfind hrun
    rw [hevents₀, List.cons.injEq] at hevents
    rcases hkinds e (by rw [hevents.2, hbody]; simp) with hinput | ⟨n, hn⟩
    · exact hinput
    · exact absurd hn (hlast n)
  refine ⟨r, _, e, hfind, hinfo, hrun, hseq, fun hcap ↦ ?_, hends, hinput⟩
  -- one event past the threshold is a marker, and this log ends with an input
  rcases hb.within _ r hfind hrun hcap with hle | ⟨-, pre', n, hmarked⟩
  · exact hle
  · have hsame := congrArg List.getLast? (hends.symm.trans hmarked)
    simp only [List.getLast?_concat, Option.some.injEq] at hsame
    exact absurd hsame (hlast n)

/-- Replaying a running run recovers its position, after a marker for the actions no marker
confirmed; the run is ripe there. -/
theorem replay_holds (run : RunInfo) :
    Timed t limits (fun s ↦ Bounded limits t s ∧ ∃ r, s.find? run.run = some r ∧ r.info = run ∧
      r.info.status.isRunning = true) (replay p run).run (Holds limits t Ripe) := by
  unfold replay
  refine Timed.ebind (M := fun events s ↦ Bounded limits t s ∧ ∃ r, s.find? run.run = some r ∧
      r.info = run ∧ r.info.status.isRunning = true ∧
      (events.map (·.2) = r.events ∨ events.map (·.2) = r.events.tail))
    (Timed.loadEvents _ (fun _ _ h he ↦ Holds.store h.1 he) ?_) fun events ↦ ?_
  · rintro s r events ⟨hb, r₀, hfind₀, hinfo, hrun⟩ hfind hloaded
    rw [hfind₀, Option.some.injEq] at hfind
    subst hfind
    exact ⟨hb, r₀, hfind₀, hinfo, hrun, hloaded⟩
  split
  · next k input at_ rest =>
    -- the loaded log starts with the start, so it is the whole log
    refine Timed.ebind (M := fun _ m ↦ Bounded limits t m ∧ ∃ r, m.find? run.run = some r ∧
        r.info = run ∧ r.info.status.isRunning = true ∧
        r.events = .started input at_ :: rest.map (·.2))
      (Timed.restored p input (fun _ m _ h ↦ ?_) fun _ _ h ↦ Holds.other h.1 fun _ h ↦ nomatch h)
      fun s₀ ↦ ?_
    · obtain ⟨hb, r, hfind, hinfo, hrun, hloaded⟩ := h
      exact ⟨hb, r, hfind, hinfo, hrun, (hb.written _ r hfind hrun).loaded hloaded rfl⟩
    refine Timed.ebind (M := fun sp m ↦ replayInputs p run s₀ [] (rest.map (·.2)) = .ok sp ∧
        Bounded limits t m ∧ ∃ r, m.find? run.run = some r ∧ r.info = run ∧
          r.info.status.isRunning = true ∧ r.events = .started input at_ :: rest.map (·.2))
      ((Timed.emk _).mono (fun m h ↦ ?_) fun _ _ h ↦ h) ?_
    · cases hreplay : replayInputs p run s₀ [] (rest.map (·.2)) with
      | error e => exact Holds.other h.1 (replayInputs_error run hreplay)
      | ok sp => exact ⟨rfl, h⟩
    rintro ⟨s, pending⟩
    dsimp only
    refine Timed.after_now ?_
    have hseq : ∀ r : StoredRun, r.events = .started input at_ :: rest.map (·.2) →
        Memory.sequenceOf ((k, Event.started input at_) :: rest).length =
          Memory.sequenceOf r.events.length := by
      intro r hevents
      rw [hevents, List.length_cons, List.length_cons, List.length_map]
    by_cases hempty : pending.isEmpty = true
    · rw [if_pos hempty]
      refine (Timed.epure _).mono ?_ fun _ _ h ↦ h
      rintro m ⟨-, hb, r, hfind, hinfo, hrun, hevents⟩
      exact ⟨hb, r, hfind, hinfo, hrun, hseq r hevents⟩
    · rw [if_neg hempty]
      refine (deliver_holds _ pending true).mono ?_ fun _ _ h ↦ h
      rintro m ⟨hreplay, hb, r, hfind, hinfo, hrun, hevents⟩
      exact ⟨hb, hb.pending_of_replay hfind hinfo hrun (hseq r hevents) hevents hreplay
        fun h ↦ hempty (List.isEmpty_iff.mpr h)⟩
  · exact Timed.throw_holds fun _ h ↦ nomatch h

/-- A fresh start at `t` files a run holding its start alone; the live run is ripe at it. -/
theorem start_holds (ht : t.Leapless) (hlimits : 2 ≤ limits.maxEvents) (workflow : String)
    (input : ι) :
    Timed t limits (Bounded limits t)
      (recoverOrStart.start p workflow input : ExceptT ExecutorError WorldM (Live σ)).run
      (Holds limits t Ripe) := by
  unfold recoverOrStart.start
  refine Timed.after_now ?_
  refine Timed.ebind (M := fun run m ↦ Bounded limits t m ∧
      ∀ live : Live σ, live.run = run → live.sequence = 1 → Ripe live m)
    (Timed.startRun _ _ _ _ (fun _ _ hb he ↦ Holds.store hb he) fun m hb ↦
      ⟨hb.insertRun hlimits _ _ _ ht, fun live hrun hseq ↦ ?_⟩) fun run ↦ ?_
  · refine ⟨_, by rw [hrun]; exact Memory.find?_insertRun_self .., hrun.symm, rfl, ?_⟩
    rw [hseq]
    rfl
  · exact (Timed.epure _).mono (fun _ h ↦ ⟨h.1, h.2 _ rfl rfl⟩) fun _ _ h ↦ h

theorem recoverOrStart_holds (ht : t.Leapless) (hlimits : 2 ≤ limits.maxEvents)
    (workflow : String) (input : ι) :
    Timed t limits (Bounded limits t) (recoverOrStart p workflow input).run
      (Holds limits t Ripe) := by
  unfold recoverOrStart
  refine Timed.ebind (M := fun current m ↦ Bounded limits t m ∧
      ∀ run, current = some run → ∃ r, m.find? run.run = some r ∧ r.info = run)
    (Timed.currentRun _ (fun _ hb ↦ Holds.store hb fun _ _ h ↦ nomatch h)
      fun m hb ↦ ⟨hb, fun run hcurrent ↦ ?_⟩) fun current ↦ ?_
  · -- the current run is a kept record, found under its own id
    obtain ⟨id, r, hfind, rfl⟩ := Memory.currentRun_eq_some hcurrent
    rw [hb.filed id r hfind]
    exact ⟨r, hfind, rfl⟩
  rcases current with _ | run
  · exact (start_holds ht hlimits workflow input).mono (fun _ h ↦ h.1) fun _ _ h ↦ h
  dsimp only
  by_cases hrun : run.status.isRunning = true
  · rw [if_pos hrun]
    by_cases htype : (run.workflowType != p.typeName) = true
    · rw [if_pos htype]
      exact Timed.throw_holds fun _ h ↦ nomatch h
    · rw [if_neg htype]
      refine (replay_holds run).mono ?_ fun _ _ h ↦ h
      rintro m ⟨hb, hcurrent⟩
      obtain ⟨r, hfind, hinfo⟩ := hcurrent run rfl
      exact ⟨hb, r, hfind, hinfo, by rw [hinfo]; exact hrun⟩
  · rw [if_neg hrun]
    exact (start_holds ht hlimits workflow input).mono (fun _ h ↦ h.1) fun _ _ h ↦ h

/-- Continuing as new at `t` files a successor holding its start alone, with the snapshot of the
state the loop held, at position one. -/
theorem continueAsNew_holds (ht : t.Leapless) (hlimits : 2 ≤ limits.maxEvents) (live : Live σ) :
    Timed t limits (Bounded limits t) (continueAsNew p live).run
      (Holds limits t fun live' m ↦ live'.sequence = 1 ∧
        m.find? live'.run.run = some ⟨live'.run, [.started (p.encode (p.snapshot live.state)) t]⟩) := by
  unfold continueAsNew
  dsimp only
  refine Timed.after_now ?_
  refine Timed.ebind (M := fun successor m ↦ Bounded limits t m ∧ m.find? successor.run =
      some ⟨successor, [.started (p.encode (p.snapshot live.state)) t]⟩)
    (Timed.continueAsNew _ _ _ (fun _ _ hb he ↦ Holds.store hb he) fun m r hb _ _ ↦
      ⟨(hb.drop _).insertRun hlimits _ _ _ ht, Memory.find?_insertRun_self ..⟩) fun successor ↦ ?_
  refine Timed.ebind (M := fun _ m ↦ Bounded limits t m ∧ m.find? successor.run =
      some ⟨successor, [.started (p.encode (p.snapshot live.state)) t]⟩)
    (Timed.restored p _ (fun _ _ _ h ↦ h) fun _ _ h ↦ Holds.other h.1 fun _ h ↦ nomatch h)
    fun s₀ ↦ ?_
  exact (Timed.epure _).mono (fun _ h ↦ ⟨h.1, rfl, h.2⟩) fun _ _ h ↦ h

/-- The check makes a ripe run poised: it is neither old nor due by its count, or it is
continued as new. -/
theorem settle_holds (ht : t.Leapless) (hlimits : 2 ≤ limits.maxEvents) (live : Live σ) :
    Timed t limits (fun m ↦ Bounded limits t m ∧ Ripe live m) (settle p limits live).run
      (Holds limits t (Poised limits)) := by
  unfold settle
  refine Timed.after_now ?_
  by_cases hdue : dueForContinuation limits t live = true
  · rw [if_pos hdue]
    refine (continueAsNew_holds ht hlimits live).mono (fun _ h ↦ h.1) ?_
    rintro (e | live') m h
    · exact h
    · exact ⟨h.1, Poised.fresh hlimits h.2.2 h.2.1⟩
  · rw [if_neg hdue]
    simp only [dueForContinuation, Bool.or_eq_true, decide_eq_true_eq, not_or] at hdue
    exact (Timed.epure _).mono (fun m h ↦ ⟨h.1, h.1.poised ht h.2 hdue.1 (Nat.lt_of_not_le hdue.2)⟩)
      fun _ _ h ↦ h

/-- Closing a run keeps the store resting and never fails on a conflict; a run already closed
counts as closed. -/
theorem close_holds (live? : Option (Live σ)) (run : RunInfo) (status : Status)
    (reason : String) :
    Timed t limits (Resting limits t live?) (close run status reason).run
      (fun r m ↦ Resting limits t live? m ∧ Unconflicted r) := by
  unfold close
  refine Timed.ebind (M := fun result m ↦ Resting limits t live? m ∧
      ∀ e, result = .error e → ∀ x y, e ≠ .conflict x y)
    (Timed.elift (Timed.closeRun _ _ _ (fun _ _ h he ↦ ⟨h, fun _ hr ↦ by cases hr; exact he⟩)
      fun _ _ h hfind hrun ↦ ⟨h.close hfind hrun _ _, (fun _ h ↦ nomatch h)⟩)) fun result ↦ ?_
  split
  · exact (Timed.epure ()).mono (fun _ h ↦ ⟨h.1, trivial⟩) fun _ _ h ↦ h
  · exact (Timed.epure ()).mono (fun _ h ↦ ⟨h.1, trivial⟩) fun _ _ h ↦ h
  · next e _ =>
    refine (Timed.ethrow _).mono (fun _ h ↦ ⟨h.1, fun x y hc ↦ ?_⟩) fun _ _ h ↦ h
    exact h.2 e rfl x y (ExecutorError.store.inj hc)

/-- Terminating the latest run of a workflow keeps the store resting. -/
theorem terminate_holds (live? : Option (Live σ)) (workflow reason : String) :
    Timed t limits (Resting limits t live?)
      (terminate workflow reason : ExceptT ExecutorError WorldM _).run
      (fun _ ↦ Resting limits t live?) := by
  unfold terminate
  refine Timed.ebind (M := fun _ ↦ Resting limits t live?)
    (Timed.currentRun _ (fun _ h ↦ h) fun _ h ↦ h) fun current ↦ ?_
  rcases current with _ | run
  · exact Timed.epure (R := fun _ ↦ Resting limits t live?) none
  dsimp only
  by_cases hrun : run.status.isRunning = true
  · rw [if_pos hrun]
    refine Timed.ebind (M := fun _ ↦ Resting limits t live?)
      (Timed.stored (Timed.closeRun _ _ _ (fun _ _ h _ ↦ h)
        fun _ _ h hfind hrun ↦ h.close hfind hrun _ _)) fun _ ↦ ?_
    exact Timed.epure (R := fun _ ↦ Resting limits t live?) _
  · rw [if_neg hrun]
    exact Timed.epure (R := fun _ ↦ Resting limits t live?) none

theorem handle_holds (ht : t.Leapless) (workflow : String) (live : Live σ) (wake : Wakeup) :
    Timed t limits (fun m ↦ Bounded limits t m ∧ Poised limits live m)
      (handle p workflow live wake).run
      (Holds limits t fun r m ↦ ∀ live', r = some live' → Ripe live' m) := by
  cases wake with
  | cancelled =>
    refine Timed.ebind_of ((close_holds (some live) live.run .cancelled _).mono
      (fun _ h ↦ ⟨h.1, fun _ hl ↦ by cases hl; exact h.2⟩) fun _ _ h ↦ h)
      (fun _ _ h ↦ ⟨h.1.1, h.2⟩) fun _ ↦ ?_
    exact (Timed.epure _).mono (fun _ h ↦ ⟨h.1.1, fun _ h ↦ nomatch h⟩) fun _ _ h ↦ h
  | displaced =>
    exact Timed.throw_holds fun _ h ↦ nomatch h
  | signal s =>
    refine Timed.after_now ?_
    refine Timed.ebind_of (process_holds rfl ⟨Instant.le_refl t, ht⟩) (fun _ _ h ↦ h)
      fun live' ↦ ?_
    exact (Timed.epure _).mono (fun _ h ↦ ⟨h.1, fun _ hl ↦ by cases hl; exact h.2⟩) fun _ _ h ↦ h
  | timer =>
    refine Timed.after_now ?_
    refine Timed.ebind_of (process_holds rfl ⟨Instant.le_refl t, ht⟩) (fun _ _ h ↦ h)
      fun live' ↦ ?_
    exact (Timed.epure _).mono (fun _ h ↦ ⟨h.1, fun _ hl ↦ by cases hl; exact h.2⟩) fun _ _ h ↦ h

/-- A run cancelled before its loop began, recovered or started, checked and closed. -/
theorem runCancelled_holds (ht : t.Leapless) (hlimits : 2 ≤ limits.maxEvents)
    (workflow : String) (input : ι) :
    Timed t limits (Bounded limits t) (runCancelled p limits workflow input).run
      (fun _ ↦ Bounded limits t) := by
  unfold runCancelled
  refine Timed.ebind_of (recoverOrStart_holds ht hlimits workflow input) (fun _ _ h ↦ h.1)
    fun live ↦ ?_
  refine Timed.ebind_of (settle_holds ht hlimits live) (fun _ _ h ↦ h.1) fun live ↦ ?_
  exact (close_holds (none : Option (Live σ)) live.run .cancelled _).mono (fun _ h ↦ ⟨h.1, nofun⟩)
    fun _ _ h ↦ h.1.1

/-! ### The run loop -/

/-- What a step of the run loop keeps at `t`: the store bounded, a loop that waits holding its
run poised, and a loop that ended not ended on a conflict. -/
def Held (limits : Limits) (t : Instant) : Progress σ → Memory → Prop
  | .waiting d, m => Bounded limits t m ∧ Poised limits d.live m
  | .finished outcome, m => Bounded limits t m ∧ Unconflicted outcome

namespace Driving

theorem stop_held (d : Driving σ) (outcome : Except ExecutorError Unit) :
    Timed t limits (fun m ↦ Bounded limits t m ∧ Unconflicted outcome) (d.stop outcome)
      (Held limits t) :=
  Timed.bind (Timed.changeBus _) fun _ ↦ (Timed.pure _).mono (fun _ h ↦ h) fun _ _ h ↦ h

theorem rest_held (ht : t.Leapless) (hlimits : 2 ≤ limits.maxEvents) (d : Driving σ) :
    Timed t limits (fun m ↦ Bounded limits t m ∧ Ripe d.live m) (rest p d) (Held limits t) := by
  unfold rest
  refine Timed.bind (Timed.read (Q := fun w m ↦ w.limits = limits ∧ Bounded limits t m ∧
    Ripe d.live m) |>.mono (fun _ h _ _ _ hl ↦ ⟨hl, h⟩) fun _ _ h ↦ h) fun w ↦ ?_
  -- the limits the loop reads are those the work runs under
  by_cases hw : w.limits = limits
  · rw [hw]
    refine Timed.bind ((settle_holds ht hlimits d.live).mono (fun _ h ↦ h.2) fun _ _ h ↦ h) ?_
    rintro (e | live)
    · exact (d.stop_held _).mono (fun _ h ↦ h) fun _ _ h ↦ h
    · exact (Timed.pure _).mono (fun _ h ↦ h) fun _ _ h ↦ h
  · exact fun _ _ _ h ↦ absurd h.1 hw

theorem begin_held (ht : t.Leapless) (hlimits : 2 ≤ limits.maxEvents) (workflow : String)
    (input : ι) : Timed t limits (Bounded limits t) (begin p workflow input) (Held limits t) := by
  unfold begin
  refine Timed.bind ((Timed.onBus _).mono (fun _ h _ ↦ h) fun _ _ h ↦ h) fun g ↦ ?_
  refine Timed.bind (recoverOrStart_holds ht hlimits workflow input) ?_
  rintro (e | live)
  · exact Timed.bind (Timed.changeBus _) fun _ ↦ (Timed.pure _).mono (fun _ h ↦ h) fun _ _ h ↦ h
  · exact (rest_held ht hlimits _).mono (fun _ h ↦ h) fun _ _ h ↦ h

theorem react_held (ht : t.Leapless) (hlimits : 2 ≤ limits.maxEvents) (d : Driving σ)
    (wake : Wakeup) :
    Timed t limits (fun m ↦ Bounded limits t m ∧ Poised limits d.live m) (poll.react p d wake)
      (Held limits t) := by
  unfold poll.react
  refine Timed.bind (handle_holds ht d.workflow d.live wake) ?_
  rintro (e | _ | live)
  · exact (d.stop_held _).mono (fun _ h ↦ h) fun _ _ h ↦ h
  · exact (d.stop_held _).mono (fun _ h ↦ ⟨h.1, trivial⟩) fun _ _ h ↦ h
  · exact (rest_held ht hlimits _).mono (fun _ h ↦ ⟨h.1, h.2 live rfl⟩) fun _ _ h ↦ h

theorem poll_held (ht : t.Leapless) (hlimits : 2 ≤ limits.maxEvents) (cancelled : Bool)
    (d : Driving σ) :
    Timed t limits (fun m ↦ Bounded limits t m ∧ Poised limits d.live m) (d.poll p cancelled)
      (Held limits t) := by
  unfold poll
  by_cases hc : cancelled = true
  · rw [if_pos hc]
    refine Timed.bind (handle_holds ht d.workflow d.live .cancelled) ?_
    rintro (e | _)
    · exact (d.stop_held _).mono (fun _ h ↦ h) fun _ _ h ↦ h
    · exact (d.stop_held _).mono (fun _ h ↦ ⟨h.1, trivial⟩) fun _ _ h ↦ h
  rw [if_neg hc]
  refine Timed.bind ((Timed.onBus _).mono (fun _ h _ ↦ h) fun _ _ h ↦ h) ?_
  rintro (_ | (q | s | _))
  · -- nothing in the mailbox: the timer, if due
    refine Timed.bind (Timed.read.mono (fun _ h _ _ _ _ ↦ h) fun _ _ h ↦ h) fun w ↦ ?_
    by_cases hdue : d.live.nextTick ≤ w.clock.now
    · rw [if_pos hdue]
      exact react_held ht hlimits d .timer
    · rw [if_neg hdue]
      exact (Timed.pure _).mono (fun _ h ↦ h) fun _ _ h ↦ h
  · exact Timed.bind (Timed.changeBus _) fun _ ↦ (Timed.pure _).mono (fun _ h ↦ h) fun _ _ h ↦ h
  · exact react_held ht hlimits d (.signal s)
  · exact (d.stop_held _).mono (fun _ h ↦ ⟨h.1, fun _ _ h ↦ nomatch h⟩) fun _ _ h ↦ h

end Driving

end SlotKeeper.Engine
