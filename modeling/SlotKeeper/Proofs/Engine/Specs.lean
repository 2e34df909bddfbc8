import SlotKeeper.Engine.Loop
import SlotKeeper.Proofs.Engine.Invariant
import SlotKeeper.Proofs.Engine.Triple

/-!
# Every step of the executor keeps the store sound

One triple for each function of the executor and of its run loop, each stated over the store
alone and for every clock, bus and fault plan: a step started on a sound store leaves it sound,
and a live run it hands back is tracked with nothing pending (`Kept`, and `Advanced` for the
loop). The functions that take a live run ask that it be tracked on entry.

The two writes that extend a log keep its shape: `process` appends an input to a log with
nothing pending, and `deliver` appends the marker after the actions were handed on, so pending
actions exist only between the two. Recovery reads a log back (`replay_spec`), redelivering what
no marker confirmed; a fresh start and a continuation hold their start alone. Closing a run,
from the loop or from elsewhere, never breaks either invariant.

Only `process` needs the program to be total: its input is appended before it is applied.
-/

namespace SlotKeeper.Engine

open Json Workflow Store

variable {ι σ : Type} {p : Program ι σ}

/-- What executor work keeps: the store sound, and a live run it hands back tracked with
nothing pending. -/
def Kept (p : Program ι σ) : Except ExecutorError (Live σ) → Memory → Prop
  | .ok live, m => Sound p m ∧ Tracks p m live []
  | .error _, m => Sound p m

/-- What a step of the run loop keeps: the store sound, and a loop still waiting tracking its
run with nothing pending. -/
def Advanced (p : Program ι σ) : Progress σ → Memory → Prop
  | .waiting d, m => Sound p m ∧ Tracks p m d.live []
  | .finished _, m => Sound p m

/-- Sending leaves the store alone and counts at most the actions it was given. -/
theorem sendAll_spec (P : Memory → Prop) (bestEffort : Bool) (actions : List Action) (n : Nat) :
    Triple P (sendAll bestEffort actions n : ExceptT ExecutorError WorldM Nat).run
      (fun r s ↦ P s ∧ ∀ k, r = .ok k → k ≤ n + actions.length) := by
  induction actions generalizing n with
  | nil =>
    refine (Triple.epure n).mono (fun s hs ↦ ⟨hs, ?_⟩) fun _ _ h ↦ h
    rintro k ⟨⟩
    exact Nat.le_add_right _ _
  | cons a rest ih =>
    -- the rest of the actions is sent from a count at most one higher
    have next : ∀ n', n' ≤ n + 1 → Triple P (sendAll bestEffort rest n').run
        (fun r s ↦ P s ∧ ∀ k, r = .ok k → k ≤ n + (a :: rest).length) := by
      intro n' hn'
      refine (ih n').mono (fun _ h ↦ h) ?_
      rintro r s ⟨hs, hk⟩
      refine ⟨hs, fun k hr ↦ ?_⟩
      have := hk k hr
      rw [List.length_cons]
      omega
    cases a with
    | idle => exact next n (Nat.le_succ n)
    | send target signal =>
      rw [sendAll]
      refine Triple.ebind (M := fun _ s ↦ P s)
        (Triple.elift ((Triple.deliver target signal).mono (fun _ h _ ↦ h) fun _ _ h ↦ h)) ?_
      rintro (e | ⟨⟩)
      · dsimp only
        by_cases hb : bestEffort = true
        · rw [if_pos hb]
          exact next n (Nat.le_succ n)
        · rw [if_neg hb]
          exact (Triple.ethrow _).mono (fun s hs ↦ ⟨hs, fun _ h ↦ nomatch h⟩) fun _ _ h ↦ h
      · exact next (n + 1) (Nat.le_refl _)

/-- Delivering pending actions writes their marker, leaving nothing pending. -/
theorem deliver_spec {live : Live σ} {actions : List Action} (hne : actions ≠ [])
    (bestEffort : Bool) :
    Triple (fun s ↦ Sound p s ∧ Tracks p s live actions) (deliver live actions bestEffort).run
      (Kept p) := by
  unfold deliver
  refine Triple.ebind
    (M := fun count s ↦ (Sound p s ∧ Tracks p s live actions) ∧ count ≤ actions.length)
    ((sendAll_spec _ bestEffort actions 0).mono (fun _ h ↦ h) ?_) fun count ↦ ?_
  · rintro (e | count) s ⟨hs, hk⟩
    · exact hs.1
    · exact ⟨hs, by have := hk count rfl; omega⟩
  refine Triple.ebind (M := fun sequence s ↦ Sound p s ∧ Tracks p s { live with sequence } [])
    (Triple.appendEvents _ _ _ ?_ ?_) fun sequence ↦ Triple.epure (R := Kept p) _
  · rintro s e ⟨⟨hs, -⟩, -⟩
    exact hs
  · rintro s r n ⟨⟨hs, ht⟩, hcount⟩ hfind hrun
    have ht' : Tracks p _ { live with sequence := n } [] :=
      ht.appendDelivered hfind hrun hne hcount rfl rfl
    exact ⟨hs.put_tracked hfind ht' rfl rfl, ht'⟩

/-- Handing on what is pending: nothing when nothing is, otherwise the delivery with its marker;
either way nothing is left pending. -/
theorem deliverPending_spec (live : Live σ) (actions : List Action) (bestEffort : Bool) :
    Triple (fun s ↦ Sound p s ∧ Tracks p s live actions)
      (if actions.isEmpty then pure live else deliver live actions bestEffort :
        ExceptT ExecutorError WorldM (Live σ)).run (Kept p) := by
  by_cases hempty : actions.isEmpty = true
  · rw [if_pos hempty, List.isEmpty_iff.mp hempty]
    exact Triple.epure (R := Kept p) _
  · rw [if_neg hempty]
    exact deliver_spec (fun h ↦ hempty (List.isEmpty_iff.mpr h)) bestEffort

/-- Processing an input appends it, applies it and delivers its actions with their marker. -/
theorem process_spec (hp : p.Total) {live : Live σ} {e : Event} (he : e.isInput = true) :
    Triple (fun s ↦ Sound p s ∧ Tracks p s live []) (process p live e).run (Kept p) := by
  unfold process
  obtain ⟨⟨s₁, actions⟩, ha⟩ := hp live.state e
  refine Triple.ebind
    (M := fun sequence s ↦ Sound p s ∧ Tracks p s { live with sequence, state := s₁ } actions)
    (Triple.appendEvents _ _ _ ?_ ?_) fun sequence ↦ ?_
  · rintro s _ ⟨hs, -⟩
    exact hs
  · rintro s r n ⟨hs, ht⟩ hfind hrun
    have ht' : Tracks p _ { live with sequence := n, state := s₁ } actions :=
      ht.appendInput hfind hrun he ha rfl rfl
    exact ⟨hs.put_tracked hfind ht' rfl rfl, ht'⟩
  dsimp only
  rw [ha]
  simp only [pure_bind]
  exact deliverPending_spec _ actions false

theorem Triple.restored {P : Memory → Prop} {R : Except ExecutorError σ → Memory → Prop}
    (p : Program ι σ) (input : Json)
    (hok : ∀ s₀ m, p.restore input = .ok s₀ → P m → R (.ok s₀) m)
    (hfail : ∀ e m, P m → R (.error e) m) :
    Triple P (Engine.restored p input : ExceptT ExecutorError WorldM σ).run R := by
  unfold Engine.restored
  split
  · next s₀ hrestore => exact (Triple.epure s₀).mono (hok s₀ · hrestore) fun _ _ h ↦ h
  · exact (Triple.ethrow _).mono (hfail _) fun _ _ h ↦ h

/-- Replaying a running run rebuilds the state its log leads to and redelivers, best effort,
the actions no marker confirmed. -/
theorem replay_spec (run : RunInfo) :
    Triple (fun s ↦ Sound p s ∧ ∃ r, s.find? run.run = some r ∧ r.info.status.isRunning = true)
      (replay p run).run (Kept p) := by
  unfold replay
  refine Triple.ebind (M := fun events s ↦ Sound p s ∧ ∃ r, s.find? run.run = some r ∧
      Shaped p r ∧ (events.map (·.2) = r.events ∨ events.map (·.2) = r.events.tail))
    (Triple.loadEvents _ ?_ ?_) fun events ↦ ?_
  · rintro s _ ⟨hs, -⟩
    exact hs
  · rintro s r events ⟨hs, r₀, hfind₀, hrun⟩ hfind hloaded
    rw [hfind₀, Option.some.injEq] at hfind
    subst hfind
    exact ⟨hs, r₀, hfind₀, hs.shaped _ _ hfind₀ hrun, hloaded⟩
  split
  · next k input at_ rest =>
    -- the loaded log starts with the start event, so it is the whole log
    refine Triple.ebind (M := fun s₀ m ↦ Sound p m ∧ ∃ r, m.find? run.run = some r ∧
        r.events = .started input at_ :: rest.map (·.2) ∧ p.restore input = .ok s₀ ∧
        ∃ s pending, p.Logged s₀ (rest.map (·.2)) s pending)
      (Triple.restored p input ?_ ?_) fun s₀ ↦ ?_
    · rintro s₀ m hrestore ⟨hs, r, hfind, hshape, hloaded⟩
      have hevents := hshape.eq_of_loaded hloaded rfl
      exact ⟨hs, r, hfind, hevents, hrestore, hshape.logged hevents hrestore⟩
    · rintro e m ⟨hs, -⟩
      exact hs
    refine Triple.ebind (M := fun sp m ↦ Sound p m ∧ ∃ r, m.find? run.run = some r ∧
        r.events = .started input at_ :: rest.map (·.2) ∧ p.restore input = .ok s₀ ∧
        p.Logged s₀ (rest.map (·.2)) sp.1 sp.2) ((Triple.emk _).mono ?_ fun _ _ h ↦ h) ?_
    · rintro m ⟨hs, r, hfind, hevents, hrestore, s, pending, hlog⟩
      rw [hlog.replayInputs run]
      exact ⟨hs, r, hfind, hevents, hrestore, hlog⟩
    -- the rebuilt run is tracked, and what no marker confirmed is delivered again, best effort
    rintro ⟨s, pending⟩
    refine Triple.ebind (M := fun now m ↦ Sound p m ∧
        Tracks p m ⟨run, s, Memory.sequenceOf ((k, .started input at_) :: rest).length,
          tickAfter now (p.interval s)⟩ pending)
      (Triple.elift (Triple.now.mono ?_ fun _ _ h ↦ h)) fun now ↦ deliverPending_spec _ pending true
    rintro m ⟨hs, r, hfind, hevents, hrestore, hlog⟩ now
    exact ⟨hs, Tracks.of_logged hfind hevents hrestore hlog⟩
  · exact (Triple.ethrow _).mono (fun _ h ↦ h.1) fun _ _ h ↦ h

/-- A fresh start files a run holding its start alone, tracked by the new live run when the
input survives its own encoding. -/
theorem start_spec (workflow : String) {input : ι}
    (hround : p.restore (p.encode input) = .ok (p.new input)) :
    Triple (Sound p)
      (recoverOrStart.start p workflow input : ExceptT ExecutorError WorldM (Live σ)).run
      (Kept p) := by
  unfold recoverOrStart.start
  refine Triple.after_now fun now ↦ ?_
  refine Triple.ebind (M := fun run m ↦ Sound p m ∧
      ∀ live : Live σ, live.run = run → live.state = p.new input → Tracks p m live [])
    (Triple.startRun _ _ _ _ (fun _ _ hs ↦ hs) ?_) fun run ↦ ?_
  · intro m hs
    refine ⟨hs.insertRun _ _ _ _, fun live hrun hstate ↦ Tracks.insertRun hrun ?_⟩
    rw [hstate]
    exact hround
  · exact (Triple.epure _).mono (fun _ ⟨hs, ht⟩ ↦ ⟨hs, ht _ rfl rfl⟩) fun _ _ h ↦ h

theorem recoverOrStart_spec (workflow : String) {input : ι}
    (hround : p.restore (p.encode input) = .ok (p.new input)) :
    Triple (Sound p) (recoverOrStart p workflow input : ExceptT ExecutorError WorldM (Live σ)).run
      (Kept p) := by
  unfold recoverOrStart
  refine Triple.ebind (M := fun current m ↦ Sound p m ∧
      ∀ run, current = some run → ∃ r, m.find? run.run = some r ∧ r.info = run)
    (Triple.currentRun _ (fun _ _ hs ↦ hs) ?_) fun current ↦ ?_
  · intro m hs
    refine ⟨hs, fun run hcurrent ↦ ?_⟩
    obtain ⟨id, r, hfind, rfl⟩ := Memory.currentRun_eq_some hcurrent
    rw [hs.filed id r hfind]
    exact ⟨r, hfind, rfl⟩
  rcases current with _ | run
  · exact (start_spec workflow hround).mono (fun _ h ↦ h.1) fun _ _ h ↦ h
  dsimp only
  by_cases hrun : run.status.isRunning = true
  · rw [if_pos hrun]
    by_cases htype : (run.workflowType != p.typeName) = true
    · rw [if_pos htype]
      exact (Triple.ethrow _).mono (fun _ h ↦ h.1) fun _ _ h ↦ h
    · rw [if_neg htype]
      refine (replay_spec run).mono ?_ fun _ _ h ↦ h
      rintro m ⟨hs, hcurrent⟩
      obtain ⟨r, hfind, hinfo⟩ := hcurrent run rfl
      exact ⟨hs, r, hfind, by rw [hinfo]; exact hrun⟩
  · rw [if_neg hrun]
    exact (start_spec workflow hround).mono (fun _ h ↦ h.1) fun _ _ h ↦ h

/-- Continuing as new files the successor holding the snapshot alone; the live run restored
from it tracks it, whatever state the old run was in. -/
theorem continueAsNew_spec (live : Live σ) :
    Triple (Sound p) (continueAsNew p live : ExceptT ExecutorError WorldM (Live σ)).run
      (Kept p) := by
  unfold continueAsNew
  refine Triple.after_now fun now ↦ ?_
  refine Triple.ebind (M := fun successor m ↦ Sound p m ∧ ∀ live' : Live σ,
      live'.run = successor → p.restore successor.input = .ok live'.state → Tracks p m live' [])
    (Triple.continueAsNew _ _ _ (fun _ _ hs ↦ hs) ?_) fun successor ↦ ?_
  · intro m r hs _ _
    exact ⟨(hs.drop _).insertRun _ _ _ _, fun live' hrun hrestore ↦ Tracks.insertRun hrun hrestore⟩
  refine Triple.ebind (M := fun s₀ m ↦ Sound p m ∧ Tracks p m ⟨successor, s₀, 1, live.nextTick⟩ [])
    (Triple.restored p _ ?_ fun _ _ h ↦ h.1) fun s₀ ↦ Triple.epure (R := Kept p) _
  rintro s₀ m hrestore ⟨hs, ht⟩
  exact ⟨hs, ht _ rfl hrestore⟩

theorem settle_spec (limits : Limits) (live : Live σ) :
    Triple (fun m ↦ Sound p m ∧ Tracks p m live [])
      (settle p limits live : ExceptT ExecutorError WorldM (Live σ)).run (Kept p) := by
  unfold settle
  refine Triple.after_now fun now ↦ ?_
  by_cases hdue : dueForContinuation limits now live = true
  · rw [if_pos hdue]
    exact (continueAsNew_spec live).mono (fun _ h ↦ h.1) fun _ _ h ↦ h
  · rw [if_neg hdue]
    exact Triple.epure (R := Kept p) _

/-- Closing a run, live or not, keeps the store steady; a run already closed counts as closed. -/
theorem close_spec (live? : Option (Live σ)) (run : RunInfo) (status : Status) (reason : String) :
    Triple (Steady p live?) (close run status reason : ExceptT ExecutorError WorldM Unit).run
      (fun _ ↦ Steady p live?) := by
  unfold close
  refine Triple.ebind (M := fun _ ↦ Steady p live?)
    (Triple.elift (Triple.closeRun _ _ _ (fun _ _ h ↦ h)
      fun _ _ h hfind hrun ↦ h.closeRun hfind hrun _ _)) fun result ↦ ?_
  split
  · exact Triple.epure (R := fun _ ↦ Steady p live?) ()
  · exact Triple.epure (R := fun _ ↦ Steady p live?) ()
  · exact Triple.ethrow (R := fun _ ↦ Steady p live?) _

/-- Terminating the latest run of a workflow, from outside any loop, keeps the store steady. -/
theorem terminate_spec (live? : Option (Live σ)) (workflow reason : String) :
    Triple (Steady p live?) (terminate workflow reason : ExceptT ExecutorError WorldM _).run
      (fun _ ↦ Steady p live?) := by
  unfold terminate
  refine Triple.ebind (M := fun _ ↦ Steady p live?)
    (Triple.currentRun _ (fun _ _ h ↦ h) fun _ h ↦ h) fun current ↦ ?_
  rcases current with _ | run
  · exact Triple.epure (R := fun _ ↦ Steady p live?) none
  dsimp only
  by_cases hrun : run.status.isRunning = true
  · rw [if_pos hrun]
    refine Triple.ebind (M := fun _ ↦ Steady p live?)
      (Triple.stored (Triple.closeRun _ _ _ (fun _ _ h ↦ h)
        fun _ _ h hfind hrun ↦ h.closeRun hfind hrun _ _)) fun _ ↦ ?_
    exact Triple.epure (R := fun _ ↦ Steady p live?) _
  · rw [if_neg hrun]
    exact Triple.epure (R := fun _ ↦ Steady p live?) none

theorem handle_spec (hp : p.Total) (workflow : String) (live : Live σ) (w : Wakeup) :
    Triple (fun m ↦ Sound p m ∧ Tracks p m live [])
      (handle p workflow live w : ExceptT ExecutorError WorldM _).run
      (fun r m ↦ Sound p m ∧ ∀ live', r = .ok (some live') → Tracks p m live' []) := by
  cases w with
  | cancelled =>
    refine Triple.ebind_of ((close_spec none live.run .cancelled _).mono (fun _ h ↦ ⟨h.1, nofun⟩)
      fun _ _ h ↦ h.1) (fun _ _ hs ↦ ⟨hs, fun _ h ↦ nomatch h⟩) fun _ ↦ ?_
    exact (Triple.epure _).mono (fun _ hs ↦ ⟨hs, fun _ h ↦ nomatch h⟩) fun _ _ h ↦ h
  | displaced => exact (Triple.ethrow _).mono (fun _ h ↦ ⟨h.1, fun _ h ↦ nomatch h⟩) fun _ _ h ↦ h
  | signal s =>
    refine Triple.after_now fun now ↦ ?_
    refine Triple.ebind_of (process_spec hp rfl) (fun _ _ hs ↦ ⟨hs, fun _ h ↦ nomatch h⟩)
      fun live' ↦ (Triple.epure _).mono ?_ fun _ _ h ↦ h
    rintro m ⟨hs, ht⟩
    exact ⟨hs, fun _ h ↦ by cases h; exact ht⟩
  | timer =>
    refine Triple.after_now fun now ↦ ?_
    refine Triple.ebind_of (process_spec hp rfl) (fun _ _ hs ↦ ⟨hs, fun _ h ↦ nomatch h⟩)
      fun live' ↦ (Triple.epure _).mono ?_ fun _ _ h ↦ h
    rintro m ⟨hs, ht⟩
    exact ⟨hs, fun _ h ↦ by cases h; exact ht⟩

/-- A run cancelled before it began: recovered or started, continued if due, then closed. -/
theorem runCancelled_spec (limits : Limits) (workflow : String) {input : ι}
    (hround : p.restore (p.encode input) = .ok (p.new input)) :
    Triple (Sound p) (runCancelled p limits workflow input : ExceptT ExecutorError WorldM _).run
      (fun _ ↦ Sound p) := by
  unfold runCancelled
  refine Triple.ebind_of (recoverOrStart_spec workflow hround) (fun _ _ hs ↦ hs) fun live ↦ ?_
  refine Triple.ebind_of (settle_spec limits live) (fun _ _ hs ↦ hs) fun live ↦ ?_
  exact (close_spec none live.run .cancelled _).mono (fun _ h ↦ ⟨h.1, nofun⟩) fun _ _ h ↦ h.1

/-! ### The run loop -/

namespace Driving

theorem stop_spec (d : Driving σ) (outcome : Except ExecutorError Unit) :
    Triple (Sound p) (d.stop outcome) (Advanced p) :=
  Triple.bind (Triple.changeBus _) fun _ ↦ (Triple.pure _).mono (fun _ h ↦ h) fun _ _ h ↦ h

theorem rest_spec (d : Driving σ) :
    Triple (fun m ↦ Sound p m ∧ Tracks p m d.live []) (rest p d) (Advanced p) := by
  unfold rest
  refine Triple.bind (Triple.read.mono (fun _ h _ _ ↦ h) fun _ _ h ↦ h) fun w ↦ ?_
  refine Triple.bind (settle_spec w.limits d.live) ?_
  rintro (e | live)
  · exact d.stop_spec _
  · exact (Triple.pure _).mono (fun _ h ↦ h) fun _ _ h ↦ h

theorem begin_spec (workflow : String) {input : ι}
    (hround : p.restore (p.encode input) = .ok (p.new input)) :
    Triple (Sound p) (begin p workflow input) (Advanced p) := by
  unfold begin
  refine Triple.bind ((Triple.onBus _).mono (fun _ h _ ↦ h) fun _ _ h ↦ h) fun g ↦ ?_
  refine Triple.bind (recoverOrStart_spec workflow hround) ?_
  rintro (e | live)
  · exact Triple.bind (Triple.changeBus _) fun _ ↦ (Triple.pure _).mono (fun _ h ↦ h) fun _ _ h ↦ h
  · exact (rest_spec _).mono (fun _ h ↦ h) fun _ _ h ↦ h

theorem react_spec (hp : p.Total) (d : Driving σ) (w : Wakeup) :
    Triple (fun m ↦ Sound p m ∧ Tracks p m d.live []) (poll.react p d w) (Advanced p) := by
  unfold poll.react
  refine Triple.bind (handle_spec hp d.workflow d.live w) ?_
  rintro (e | _ | live)
  · exact (d.stop_spec _).mono (fun _ h ↦ h.1) fun _ _ h ↦ h
  · exact (d.stop_spec _).mono (fun _ h ↦ h.1) fun _ _ h ↦ h
  · exact (rest_spec _).mono (fun _ ⟨hs, ht⟩ ↦ ⟨hs, ht live rfl⟩) fun _ _ h ↦ h

theorem poll_spec (hp : p.Total) (cancelled : Bool) (d : Driving σ) :
    Triple (fun m ↦ Sound p m ∧ Tracks p m d.live []) (d.poll p cancelled) (Advanced p) := by
  unfold poll
  by_cases hc : cancelled = true
  · rw [if_pos hc]
    refine Triple.bind (handle_spec hp d.workflow d.live .cancelled) ?_
    rintro (e | _) <;> exact (d.stop_spec _).mono (fun _ h ↦ h.1) fun _ _ h ↦ h
  rw [if_neg hc]
  refine Triple.bind ((Triple.onBus _).mono (fun _ h _ ↦ h) fun _ _ h ↦ h) ?_
  rintro (_ | (q | s | _))
  · -- nothing in the mailbox: the timer, if due
    refine Triple.bind (Triple.read.mono (fun _ h _ _ ↦ h) fun _ _ h ↦ h) fun w ↦ ?_
    by_cases hdue : d.live.nextTick ≤ w.clock.now
    · rw [if_pos hdue]
      exact react_spec hp d .timer
    · rw [if_neg hdue]
      exact (Triple.pure _).mono (fun _ h ↦ h) fun _ _ h ↦ h
  · -- a query is answered from the state and changes nothing
    exact Triple.bind (Triple.changeBus _) fun _ ↦ (Triple.pure _).mono (fun _ h ↦ h) fun _ _ h ↦ h
  · exact react_spec hp d (.signal s)
  · exact (d.stop_spec _).mono (fun _ h ↦ h.1) fun _ _ h ↦ h

end Driving

end SlotKeeper.Engine
