import SlotKeeper.Script.Executor
import SlotKeeper.Proofs.Engine.Replacing
import SlotKeeper.Proofs.Pool.Retrying

/-!
# An operator's reset of the pool

A reset replaces the coordinator: it shuts the admin's supervisor down (cancels it and lets every
task of the process run until each waits), terminates whatever coordinator run is still running,
and starts a new supervisor from the configuration it is given.

The old run can be in several places when the reset comes: driven by the admin's loop, waiting
in the supervisor's restart backoff (cancelling it reruns the loop, which recovers the run, may
continue it as new because it is due, and then closes it), left running by a loop that already
stopped with an error, or left by a process that crashed. None of this needs to be followed
step by step. The executor closes runs only as cancelled or terminated, so every task of the
process keeps `Memory.Follows` of the store the reset found, and the store's registry
(`Scene.settle_keeps`). What the admin does after the shutdown, `Admin.replace`, fails only on
a store call of the termination, and otherwise the termination leaves no coordinator run running
and the new loop starts a fresh one on that store (`Admin.replace_launches`).

The main statement, `reset_replaces_coordinator`: a reset either fails on a store call of the
termination, or answers `ok`, and then every coordinator run that was running is cancelled or
terminated if it is kept at all (a continuation drops the run it continues), every other closed
coordinator run is cancelled, terminated or closed as it was before, and the admin holds a new
supervisor, not cancelled, whose loop, if it runs, drives the only running coordinator run: a
fresh one, started at the reset's instant from the configuration alone, with no books carried
over.
-/

namespace SlotKeeper

namespace Pool

open Json Workflow Engine Store

variable {I : Memory → Prop} {t : Instant} {limits : Limits}

/-! ### Tasks that never touch the store -/

namespace Client

theorem attempt_preserves (c : Client) (a : Acquisition) : Preserves I (c.attempt a) := by
  intro w
  rw [attempt_world]
  exact ⟨id, rfl, rfl⟩

/-- An acquisition uses the clock and the bus alone. -/
theorem poll_preserves (c : Client) (a : Acquisition) : Preserves I (c.poll a) := by
  intro w
  cases hphase : a.phase with
  | resting deadline =>
    rw [poll_resting hphase]
    split
    · exact attempt_preserves c _ w
    · exact ⟨id, rfl, rfl⟩
  | awaiting request =>
    rw [poll_awaiting_world hphase]
    exact ⟨id, rfl, rfl⟩

end Client

theorem Heartbeats.poll_preserves (h : Heartbeats) : Preserves I h.poll := by
  unfold Heartbeats.poll
  refine .bind .get fun w ↦ ?_
  dsimp only
  split
  · exact .pure _
  · exact .bind (.onBus _) fun _ ↦ .pure _

/-! ### The supervisor -/

namespace Supervisor

theorem afterRun_preserves (s : Supervisor) (outcome : Except ExecutorError Unit) :
    Preserves I (s.afterRun outcome) := by
  unfold afterRun
  split
  · exact .pure _
  · split
    · exact .pure _
    · dsimp only
      split
      · exact .pure _
      · exact .bind .get fun _ ↦ .pure _

section Writes

variable (hI : ClosedUnderWrites I)
include hI

theorem launch_preserves (s : Supervisor) : Preserves I s.launch := by
  unfold launch
  refine .bind (Driving.begin_preserves _ hI _ _) fun progress ↦ ?_
  cases progress with
  | waiting d => exact .pure _
  | finished outcome => exact afterRun_preserves s outcome

theorem start_preserves (config : Config) : Preserves I (start config) :=
  launch_preserves hI _

/-- Every wake-up of a supervisor keeps what the executor's writes keep. -/
theorem poll_preserves (s : Supervisor) : Preserves I s.poll := by
  unfold poll
  split
  · refine .bind (Driving.poll_preserves _ hI _ _) fun progress ↦ ?_
    cases progress with
    | waiting d => exact .pure _
    | finished outcome => exact afterRun_preserves s outcome
  · refine .bind .get fun w ↦ ?_
    split
    · exact launch_preserves hI s
    · exact .pure _
  · exact .pure _

end Writes

/-- Deciding after a run keeps the configuration and the cancellation, and never leaves a loop
running. -/
theorem afterRun_stops {P : Memory → Prop} (s : Supervisor) (outcome : Except ExecutorError Unit) :
    Timed t limits P (s.afterRun outcome) fun s' m ↦
      P m ∧ s'.config = s.config ∧ s'.cancelled = s.cancelled ∧ ∀ d, s'.stage ≠ .running d := by
  have hstopped : ∀ s' : Supervisor, s'.config = s.config → s'.cancelled = s.cancelled →
      (∀ d, s'.stage ≠ .running d) → Timed t limits P (pure s') fun s' m ↦
        P m ∧ s'.config = s.config ∧ s'.cancelled = s.cancelled ∧ ∀ d, s'.stage ≠ .running d :=
    fun _ hconfig hcancelled hstage ↦
      (Timed.pure _).mono (fun _ h ↦ ⟨h, hconfig, hcancelled, hstage⟩) fun _ _ h ↦ h
  unfold afterRun
  split
  · exact hstopped _ rfl rfl fun _ h ↦ nomatch h
  · split
    · exact hstopped _ rfl rfl fun _ h ↦ nomatch h
    · dsimp only
      split
      · exact hstopped _ rfl rfl fun _ h ↦ nomatch h
      · refine Timed.bind (Timed.read.mono (fun _ h _ _ _ _ ↦ h) fun _ _ h ↦ h) fun w ↦ ?_
        exact hstopped _ rfl rfl fun _ h ↦ nomatch h

/-- What a new supervisor for `config` holds after its first launch at `t`: it is not cancelled,
a loop it runs drives a fresh coordinator run from `config` alone, and no other coordinator run
is running. -/
structure Launched (config : Config) (t : Instant) (m₀ : Memory) (s : Supervisor) (m : Memory) :
    Prop where
  configured : s.config = config
  cancelled : s.cancelled = false
  fresh : ∀ d, s.stage = .running d → Fresh coordinator coordinatorId ⟨config, none⟩ t m₀ d.live m
  only : ∀ id r, m.find? id = some r → r.info.workflow = coordinatorId →
    r.info.status.isRunning = true → ∃ d, s.stage = .running d ∧ d.live.run.run = id

/-- A supervisor started on a store with no running coordinator run is launched. -/
theorem start_launched {m₀ : Memory} (h₀ : Store.Kept m₀) (hmax : 2 ≤ limits.maxEvents)
    (config : Config) :
    Timed t limits (Vacant m₀ coordinatorId) (start config) (Launched config t m₀) := by
  unfold start launch
  refine Timed.bind (begin_fresh (p := coordinator) h₀ hmax coordinatorId ⟨config, none⟩)
    fun progress ↦ ?_
  cases progress with
  | waiting d =>
    refine (Timed.pure _).mono (fun m hfresh ↦ ⟨rfl, rfl, fun d' hd ↦ ?_,
      fun id r hfind hwf hrun ↦ ⟨d, rfl, (hfresh.only id r hfind hwf hrun).symm⟩⟩) fun _ _ h ↦ h
    cases hd
    exact hfresh
  | finished outcome =>
    refine (afterRun_stops _ outcome).mono (fun _ h ↦ h) ?_
    rintro s' m ⟨hidle, hconfig, hcancelled, hstage⟩
    refine ⟨hconfig, hcancelled, fun d hd ↦ absurd hd (hstage d), fun id r hfind hwf hrun ↦ ?_⟩
    rw [hidle id r hfind hwf] at hrun
    cases hrun

end Supervisor

/-! ### The admin's replacement of the coordinator -/

namespace Admin

/-- Replacing the coordinator on a registered store that the executor's writes made of `m₀` fails
only on a store call of the termination. Otherwise the new supervisor is launched for `config`
at the instant of the replacement; either way the store still follows from `m₀`. -/
theorem replace_launches {m₀ : Memory} (h₀ : Store.Kept m₀) (hmax : 2 ≤ limits.maxEvents)
    (config : Config) :
    Timed t limits (fun m ↦ Registered m ∧ m₀.Follows m) (replace config).run fun r m ↦
      m₀.Follows m ∧ match r with
        | .ok s => Supervisor.Launched config t m₀ s m
        | .error e => ∃ e', e = .executor (.store e') := by
  have hI := Registered.closedUnderWrites.and (Memory.Follows.closedUnderWrites h₀)
  have hterm := (@terminate_idles t limits coordinatorId resetReason).and_preserves
    (terminate_preserves hI coordinatorId resetReason)
  have hstart := (Supervisor.start_launched (t := t) h₀ hmax config).and_preserves
    (Supervisor.start_preserves hI config)
  unfold replace
  refine Timed.ebind (M := fun _ m ↦ Vacant m₀ coordinatorId m ∧ Registered m ∧ m₀.Follows m)
    (Timed.adapt (hterm.mono (fun _ h ↦ ⟨h.1, h⟩) fun r m ⟨hr, hreg, hfollows⟩ ↦ ?_))
    fun _ ↦ Timed.elift (hstart.mono (fun _ h ↦ h) fun _ _ ⟨hlaunched, _, hfollows⟩ ↦
      ⟨hfollows, hlaunched⟩)
  cases r with
  | ok _ => exact ⟨⟨hreg, hr, hfollows.minted⟩, hreg, hfollows⟩
  | error e =>
    obtain ⟨e', rfl⟩ := hr
    exact ⟨hfollows, e', rfl⟩

end Admin

end Pool

namespace Script

namespace Tasks

open Json Workflow Engine Pool Store

variable {I : Memory → Prop}

theorem Job.poll_preserves (hI : ClosedUnderWrites I) (cancelled : Bool) (job : Job) :
    Preserves I (job.poll cancelled) := by
  cases job with
  | pool d =>
    exact .bind (Driving.poll_preserves _ hI _ _) fun progress ↦ by cases progress <;> exact .pure _
  | echo d =>
    exact .bind (Driving.poll_preserves _ hI _ _) fun progress ↦ by cases progress <;> exact .pure _

namespace Scene

/-- `sc'` keeps what `sc` had of the store property `I`, and the clock and limits of `sc`. -/
def Keeps (I : Memory → Prop) (sc sc' : Scene) : Prop :=
  (I sc.world.store → I sc'.world.store) ∧ sc'.world.clock = sc.world.clock ∧
    sc'.world.limits = sc.world.limits

namespace Keeps

theorem refl (sc : Scene) : Keeps I sc sc := ⟨id, rfl, rfl⟩

theorem trans {sc₁ sc₂ sc₃ : Scene} (h₁ : Keeps I sc₁ sc₂) (h₂ : Keeps I sc₂ sc₃) :
    Keeps I sc₁ sc₃ :=
  ⟨h₂.1 ∘ h₁.1, h₂.2.1.trans h₁.2.1, h₂.2.2.trans h₁.2.2⟩

theorem onWorld {α : Type} {work : WorldM α} (h : Preserves I work) (sc : Scene) :
    Keeps I sc (sc.onWorld work).2 :=
  h sc.world

theorem of_frame {sc sc' : Scene} (hs : sc'.world.store = sc.world.store)
    (hc : sc'.world.clock = sc.world.clock) (hl : sc'.world.limits = sc.world.limits) :
    Keeps I sc sc' :=
  ⟨fun h ↦ hs ▸ h, hc, hl⟩

theorem of_onWorld {α : Type} {work : WorldM α} (h : Preserves I work) {sc sc' : Scene} {a : α}
    (hrun : sc.onWorld work = (a, sc')) : Keeps I sc sc' := by
  have hkeeps := onWorld h sc
  rw [hrun] at hkeeps
  exact hkeeps

end Keeps

theorem pollRecorder_keeps (sc : Scene) (i : Nat) (r : Recorder) :
    Keeps I sc (sc.pollRecorder i r) := by
  unfold pollRecorder
  rcases hnext : sc.onWorld (World.onBus (·.next r.mailbox)) with ⟨item, sc'⟩
  have hkeeps : Keeps I sc sc' := Keeps.of_onWorld (.onBus _) hnext
  dsimp only
  split
  · exact hkeeps.trans (Keeps.of_frame rfl rfl rfl)
  · exact hkeeps
  · exact hkeeps.trans (Keeps.of_frame rfl rfl rfl)
  · exact hkeeps

section Writes

variable (hI : ClosedUnderWrites I)
include hI

/-- Every wake-up of every task of the process keeps what the executor's writes keep. -/
theorem poll_keeps (sc : Scene) (task : Task) : Keeps I sc (sc.poll task) := by
  cases task with
  | loop =>
    rw [Scene.poll]
    split
    · next job cancelled _ =>
      rcases hrun : sc.onWorld (job.poll cancelled) with ⟨r, sc'⟩
      dsimp only
      have hkeeps : Keeps I sc sc' := Keeps.of_onWorld (Job.poll_preserves hI _ _) hrun
      split
      · exact hkeeps
      · exact hkeeps
    · exact Keeps.refl sc
  | admin =>
    rw [Scene.poll]
    split
    · next s _ =>
      rcases hrun : sc.onWorld s.poll with ⟨s', sc'⟩
      exact (Keeps.of_onWorld (Supervisor.poll_preserves hI s) hrun).trans (Keeps.of_frame rfl rfl rfl)
    · exact Keeps.refl sc
  | bare =>
    rw [Scene.poll]
    split
    · next s _ =>
      rcases hrun : sc.onWorld s.poll with ⟨s', sc'⟩
      exact (Keeps.of_onWorld (Supervisor.poll_preserves hI s) hrun).trans (Keeps.of_frame rfl rfl rfl)
    · exact Keeps.refl sc
  | acquisition i =>
    rw [Scene.poll]
    split
    · next p _ =>
      rcases hrun : sc.onWorld (p.client.poll p.acquisition) with ⟨r, sc'⟩
      dsimp only
      have hkeeps : Keeps I sc sc' := Keeps.of_onWorld (Client.poll_preserves _ _) hrun
      split
      · exact hkeeps
      · exact hkeeps
      · exact hkeeps.trans (Keeps.of_frame rfl rfl rfl)
    · exact Keeps.refl sc
  | beat i =>
    rw [Scene.poll]
    split
    · next b _ =>
      rcases hrun : sc.onWorld b.loop.poll with ⟨h, sc'⟩
      exact (Keeps.of_onWorld (Heartbeats.poll_preserves _) hrun).trans (Keeps.of_frame rfl rfl rfl)
    · exact Keeps.refl sc
  | recorder i =>
    rw [Scene.poll]
    split
    · exact pollRecorder_keeps sc i _
    · exact Keeps.refl sc

theorem drain_keeps (task : Task) (fuel : Nat) (sc : Scene) : Keeps I sc (drain task fuel sc) := by
  induction fuel generalizing sc with
  | zero => exact Keeps.refl sc
  | succ fuel ih =>
    unfold drain
    split
    · exact (poll_keeps hI sc task).trans (ih _)
    · exact Keeps.refl sc

/-- Running the tasks until each waits keeps what the executor's writes keep. -/
theorem settleWith_keeps (fuel : Nat) (sc : Scene) : Keeps I sc (settleWith fuel sc) := by
  induction fuel generalizing sc with
  | zero => exact Keeps.refl sc
  | succ fuel ih =>
    unfold settleWith
    split
    · exact (drain_keeps hI _ _ sc).trans (ih _)
    · exact Keeps.refl sc

theorem settle_keeps (sc : Scene) : Keeps I sc sc.settle :=
  settleWith_keeps hI _ sc

end Writes

end Scene

end Tasks

namespace ExecutorRun

open Json Workflow Engine Pool Store Tasks

variable {I : Memory → Prop}

/-- Shutting the admin's supervisor down keeps what the executor's writes keep. -/
theorem shutdownAdmin_keeps (hI : ClosedUnderWrites I) (sc : Scene) :
    Scene.Keeps I sc (shutdownAdmin sc).1 := by
  unfold shutdownAdmin
  split
  · exact Scene.Keeps.refl sc
  · next s _ =>
    exact (Scene.settle_keeps hI { sc with admin := some s.cancel }).trans
      (Scene.Keeps.of_frame rfl rfl rfl)

/-- What an operator's reset that answered leaves, for the store `m₀` it found, the
configuration it was given and the clock's reading `t` when it ran. -/
structure Replaced (m₀ : Memory) (config : Config) (t : Instant) (sc : Scene) : Prop where
  /-- Every coordinator run that was running is cancelled or terminated, if it is kept. -/
  stopped : ∀ id r₀ r, m₀.find? id = some r₀ → r₀.info.workflow = coordinatorId →
    r₀.info.status.isRunning = true → sc.world.store.find? id = some r →
    Memory.Stopped r.info.status
  /-- Every closed coordinator run is cancelled or terminated, or was closed so before. -/
  closed : ∀ id r, sc.world.store.find? id = some r → r.info.workflow = coordinatorId →
    r.info.status.isRunning = false →
    Memory.Stopped r.info.status ∨ ∃ r₀, m₀.find? id = some r₀ ∧ r₀.info.status = r.info.status
  /-- The admin holds a new supervisor whose loop drives the only running coordinator run. -/
  admin : ∃ s, sc.admin = some s ∧ Supervisor.Launched config t m₀ s sc.world.store

/-- A reset whose new supervisor was launched on a store that followed from `m₀` has replaced
the coordinator. -/
theorem Replaced.of_launched {m₀ : Memory} {config : Config} {t : Instant} {sc : Scene}
    {s : Supervisor} (hadmin : sc.admin = some s) (hfollows : m₀.Follows sc.world.store)
    (hlaunched : Supervisor.Launched config t m₀ s sc.world.store) : Replaced m₀ config t sc where
  stopped id r₀ r hfind₀ hwf hrun hfind := by
    obtain ⟨hwf', hstatus⟩ := hfollows.kept id r₀ r hfind₀ hfind
    rcases hstatus with hsame | ⟨-, hstop⟩
    · -- still running, it would be the new loop's run, which `m₀` did not keep
      obtain ⟨d, hd, rfl⟩ := hlaunched.only _ r hfind (hwf'.trans hwf) (by rw [hsame]; exact hrun)
      rw [(hlaunched.fresh d hd).unseen] at hfind₀
      cases hfind₀
    · exact hstop
  closed id r hfind _ hclosed := by
    cases hfind₀ : m₀.find? id with
    | none =>
      rcases hfollows.new id r hfind₀ hfind with hrun | hstop
      · rw [hrun] at hclosed
        cases hclosed
      · exact .inl hstop
    | some r₀ =>
      rcases (hfollows.kept id r₀ r hfind₀ hfind).2 with hsame | ⟨-, hstop⟩
      · exact .inr ⟨r₀, rfl, hsame.symm⟩
      · exact .inl hstop
  admin := ⟨s, hadmin, hlaunched⟩

/-- A reset either fails on a store call of the termination, or answers `ok` having replaced
the coordinator: the old runs are stopped and a fresh run from `config` alone is the only
running coordinator run. -/
theorem reset_replaces_coordinator (sc : Scene) (config : Config)
    (hstore : Registered sc.world.store) (hmax : 2 ≤ sc.world.limits.maxEvents) :
    (∃ e : StoreError, (reset sc config).2 = .error (poolErrorView (.executor (.store e)))) ∨
      ((reset sc config).2 = .ok [("ok", .bool true)] ∧
        Replaced sc.world.store config sc.world.clock.now (reset sc config).1) := by
  have hI := Registered.closedUnderWrites.and (Memory.Follows.closedUnderWrites hstore.toKept)
  -- every task that runs while the old supervisor shuts down keeps the invariant
  rcases hshut : shutdownAdmin sc with ⟨sc₁, outcome⟩
  have k₁ : Scene.Keeps (fun m ↦ Registered m ∧ sc.world.store.Follows m) sc sc₁ := by
    have hkeeps := shutdownAdmin_keeps hI sc
    rw [hshut] at hkeeps
    exact hkeeps
  have hreplace := Admin.replace_launches hstore.toKept hmax config sc₁.world
    (by rw [k₁.2.1]) k₁.2.2 (k₁.1 ⟨hstore, Memory.Follows.refl _⟩)
  unfold reset
  rw [hshut]
  dsimp only [Scene.onWorld]
  rcases hrun : (Admin.replace config).run.run sc₁.world with ⟨r, w₂⟩
  rw [hrun] at hreplace
  obtain ⟨-, -, hfollows, hr⟩ := hreplace
  cases r with
  | error e =>
    obtain ⟨e', rfl⟩ := hr
    exact .inl ⟨e', rfl⟩
  | ok s => exact .inr ⟨rfl, Replaced.of_launched rfl hfollows hr⟩

/-- A store whose coordinator run was started at the epoch and is still running. -/
def agedRunStore : Memory :=
  (Memory.empty.insertRun coordinatorId coordinatorType (coordinator.encode ⟨Config.default, none⟩)
    ⟨0, 0⟩).2

/-- The process more than a day after that start, its admin's supervisor waiting to rerun the
loop after a failure. -/
def backedOffProcess : Scene :=
  { Scene.fresh ⟨100000, 0⟩ Limits.default with
    world := { (Scene.fresh ⟨100000, 0⟩ Limits.default).world with store := agedRunStore }
    admin := some ⟨Config.default, false, 1, .backingOff ⟨100000000⟩⟩ }

/-- The store of the process in backoff is registered: it is what starting the coordinator's run
makes of the empty store. A reset there fails on a store call of the termination or replaces the
coordinator. -/
theorem backed_off_process_reset :
    Registered backedOffProcess.world.store ∧ 2 ≤ backedOffProcess.world.limits.maxEvents ∧
      ((∃ e : StoreError, (reset backedOffProcess Config.default).2 =
          .error (poolErrorView (.executor (.store e)))) ∨
        ((reset backedOffProcess Config.default).2 = .ok [("ok", .bool true)] ∧
          Replaced backedOffProcess.world.store Config.default backedOffProcess.world.clock.now
            (reset backedOffProcess Config.default).1)) := by
  have hreg : Registered backedOffProcess.world.store :=
    Registered.empty.apply (.startRun coordinatorId coordinatorType
      (coordinator.encode ⟨Config.default, none⟩) ⟨0, 0⟩)
  exact ⟨hreg, by decide, reset_replaces_coordinator _ _ hreg (by decide)⟩

/-- A reset while the supervisor waits to rerun: cancelling reruns the loop, which recovers the
old run, finds it older than a day and continues it as new before it sees the cancellation, then
closes the successor as cancelled. The reset answers `ok`, and the old run is not cancelled or
terminated but gone. -/
theorem reset_in_backoff_continues_old_run :
    (agedRunStore.find? (Uuid.minted 0)).map (·.info.status) = some .running ∧
      (reset backedOffProcess Config.default).2.toBool = true ∧
      ((reset backedOffProcess Config.default).1.world.store.find? (Uuid.minted 0)).isNone = true ∧
      ((reset backedOffProcess Config.default).1.world.store.find? (Uuid.minted 1)).map
        (·.info.status) = some .cancelled := by
  decide

end ExecutorRun

end Script

end SlotKeeper
