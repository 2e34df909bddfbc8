import SlotKeeper.Proofs.Engine.Execution
import SlotKeeper.Proofs.Engine.Handoff
import SlotKeeper.Proofs.Engine.BoundedSteps
import SlotKeeper.Workflow.Echo

/-!
# A bounded history along every execution

`Timely p limits readable` holds of the scenes reached from a world with an empty store by steps
that keep one set of limits and a clock that never runs backwards, whose every reading is
`readable`. `Checked` collects the checks the run loops make along those executions: the world and
the live run with which a loop decides whether to continue its run as new.

The main statement, `history_bounded`: under an event bound `m` of two or more, along every
execution on a clock that never reads a leap second,

* no running run holds more than `m + 1` events, when `m` is short of `2^64 − 1`;
* at most one input of a run is logged once the run is older than the age bound;
* at every check the loop's run is running at the loop's position, which is the number of its
  events read as a signed 32-bit number, and a run due by its count holds an input after its
  start;
* a continuation at a check files a successor that holds its start alone, with the snapshot;
* no loop ends on a concurrency conflict.

Leap seconds break the second point: the time elapsed since a run started falls back when the
clock leaves a leap second, so a check right after it can find the run young again.
`leap_second_admits_two_late_inputs` is an execution of the echo workflow in which a run logs a
late input during a leap second, its continuation fails, the loop that recovers it a moment later
finds it just young enough, and it logs a second late input.
-/

namespace SlotKeeper.Engine

open Json Workflow Store

variable {ι σ : Type} {p : Program ι σ} {limits : Limits} {readable : Instant → Prop}

/-- The scenes reached from a world with an empty store by steps that keep the limits and never
set the clock back, every reading of the clock being `readable`. -/
inductive Timely (p : Program ι σ) (limits : Limits) (readable : Instant → Prop) :
    Scene σ → Prop
  | start (w : World) (hw : w.store = Memory.empty) (hlimits : w.limits = limits)
      (hread : readable w.clock.now) : Timely p limits readable ⟨w, none⟩
  | step {sc sc' : Scene σ} (h : Timely p limits readable sc) (hstep : Step p sc sc')
      (hlimits : sc'.world.limits = limits) (hclock : sc.world.clock.now ≤ sc'.world.clock.now)
      (hread : readable sc'.world.clock.now) : Timely p limits readable sc'

namespace Timely

variable {sc : Scene σ}

theorem reachable (h : Timely p limits readable sc) : Reachable p sc := by
  induction h with
  | start w hw => exact .start w hw
  | step _ hstep _ _ _ ih => exact .step ih hstep

theorem limits_eq (h : Timely p limits readable sc) : sc.world.limits = limits := by
  cases h with
  | start w hw hlimits => exact hlimits
  | step _ _ hlimits => exact hlimits

theorem clock_readable (h : Timely p limits readable sc) : readable sc.world.clock.now := by
  cases h with
  | start w hw hlimits hread => exact hread
  | step _ _ _ _ hread => exact hread

/-- Whatever the rest of the process does to the world, keeping the store and the limits and
setting the clock forward to a readable instant, keeps the execution timely. -/
theorem outside (h : Timely p limits readable sc) (f : World → World)
    (hstore : (f sc.world).store = sc.world.store) (hlimits : (f sc.world).limits = limits)
    (hclock : sc.world.clock.now ≤ (f sc.world).clock.now) (hread : readable (f sc.world).clock.now) :
    Timely p limits readable ⟨f sc.world, sc.loop⟩ :=
  .step h (.outside _ _ _ hstore) hlimits hclock hread

end Timely

/-! ### Resting scenes -/

/-- The store bounded at the scene's instant, and the live loop's run, if any, poised. -/
def Scene.Resting (limits : Limits) (sc : Scene σ) : Prop :=
  Engine.Resting limits sc.world.clock.now (sc.loop.map (·.live)) sc.world.store

theorem Scene.resting_of_clock {t : Instant} {w : World} {loop : Option (Driving σ)}
    (hclock : w.clock.now = t) (h : Engine.Resting limits t (loop.map (·.live)) w.store) :
    Scene.Resting limits ⟨w, loop⟩ := by
  subst hclock
  exact h

theorem Scene.resting_after {t : Instant} {progress : Progress σ} {w : World}
    (hclock : w.clock.now = t) (h : Held limits t progress w.store) :
    (Scene.after (progress, w)).Resting limits := by
  subst hclock
  cases progress with
  | waiting d => exact ⟨h.1, fun live hlive ↦ by cases hlive; exact h.2⟩
  | finished outcome => exact ⟨h.1, nofun⟩

/-- A loop that ended did not end on a conflict. -/
theorem Held.unconflicted {t : Instant} {progress : Progress σ} {m : Memory}
    (h : Held limits t progress m) (x y : Int) :
    progress ≠ .finished (.error (.store (.conflict x y))) := by
  rintro rfl
  exact h.2 x y rfl

/-- Every step from a scene whose clock reads outside leap seconds keeps it resting, when it
keeps the limits and does not set the clock back. -/
theorem Step.resting (hlimits : 2 ≤ limits.maxEvents) {sc sc' : Scene σ} (hstep : Step p sc sc')
    (hl : sc.world.limits = limits) (hread : sc.world.clock.now.Leapless)
    (hclock : sc.world.clock.now ≤ sc'.world.clock.now) (h : sc.Resting limits) :
    sc'.Resting limits := by
  cases hstep with
  | begin w workflow input hround =>
    obtain ⟨hc, -, hheld⟩ := Driving.begin_held (p := p) hread hlimits workflow input w rfl hl h.1
    exact Scene.resting_after hc hheld
  | poll w d cancelled =>
    obtain ⟨hc, -, hheld⟩ :=
      Driving.poll_held hread hlimits cancelled d w rfl hl ⟨h.1, h.2 d.live rfl⟩
    exact Scene.resting_after hc hheld
  | abort w d => exact ⟨h.1, nofun⟩
  | outside w w' loop hstore =>
    show Engine.Resting limits w'.clock.now _ w'.store
    rw [hstore]
    exact ⟨h.1.later hclock, h.2⟩
  | terminated w loop workflow reason =>
    obtain ⟨hc, -, hrest⟩ := terminate_holds _ workflow reason w rfl hl h
    exact Scene.resting_of_clock hc hrest
  | closed w loop run status reason =>
    obtain ⟨hc, -, hrest, -⟩ := close_holds _ run status reason w rfl hl h
    exact Scene.resting_of_clock hc hrest
  | cancelled w workflow input hround =>
    subst hl
    obtain ⟨hc, -, hb⟩ := runCancelled_holds (p := p) hread hlimits workflow input w rfl rfl h.1
    exact Scene.resting_of_clock hc ⟨hb, nofun⟩

/-- Every scene of an execution on a clock outside leap seconds is resting. -/
theorem Timely.resting (hlimits : 2 ≤ limits.maxEvents) {sc : Scene σ}
    (h : Timely p limits Instant.Leapless sc) : sc.Resting limits := by
  induction h with
  | start w hw _ _ =>
    refine ⟨?_, nofun⟩
    rw [hw]
    exact Bounded.empty _ _
  | step h hstep _ hclock _ ih => exact hstep.resting hlimits h.limits_eq h.clock_readable hclock ih

/-! ### The loop's checks -/

/-- What a loop that is not cancelled wakes for besides a query: the signal at the head of its
mailbox, or, with its mailbox empty, a tick that is due. -/
inductive Driving.Wakes (d : Driving σ) (w : World) : Wakeup → Prop
  | signal {s : Signal} (h : (w.bus.next d.mailbox).2 = some (.signal s)) :
      Driving.Wakes d w (.signal s)
  | timer (h : (w.bus.next d.mailbox).2 = none) (hdue : d.live.nextTick ≤ w.clock.now) :
      Driving.Wakes d w .timer

/-- A wake-up on a signal or a tick is the reaction to it, in the world whose mailbox handed it
out. -/
theorem Driving.Wakes.poll {d : Driving σ} {w : World} {wake : Wakeup} (h : d.Wakes w wake) :
    (d.poll p false).run w =
      (Driving.poll.react p d wake).run { w with bus := (w.bus.next d.mailbox).1 } := by
  cases h with
  | signal h => exact Driving.poll_of_signal h
  | timer hnone hdue =>
    unfold Driving.poll
    rw [if_neg Bool.false_ne_true]
    simp only [StateT.run_bind, World.onBus_run]
    rw [hnone]
    show (if d.live.nextTick ≤ w.clock.now then _ else _ : WorldM _).run _ = _
    rw [if_pos hdue]

/-- The checks of run loops along the executions `Timely p limits readable`: the world and the
live run with which a loop decides whether to continue its run as new. A loop checks once it has
recovered or started its run, and after it handles a signal or a tick; a run cancelled before
its loop began is checked once before it is closed. -/
inductive Checked (p : Program ι σ) (limits : Limits) (readable : Instant → Prop) :
    World → Live σ → Prop
  | begun {w w' : World} {workflow : String} {input : ι} {live : Live σ}
      (h : Timely p limits readable ⟨w, none⟩)
      (hstart : (recoverOrStart p workflow input : ExceptT ExecutorError WorldM _).run.run
        ((World.onBus (·.register workflow)).run w).2 = (.ok live, w')) :
      Checked p limits readable w' live
  | woken {w w' : World} {d : Driving σ} {wake : Wakeup} {live : Live σ}
      (h : Timely p limits readable ⟨w, some d⟩) (hwake : d.Wakes w wake)
      (hhandle : (handle p d.workflow d.live wake : ExceptT ExecutorError WorldM _).run.run
        { w with bus := (w.bus.next d.mailbox).1 } = (.ok (some live), w')) :
      Checked p limits readable w' live
  | cancelled {w w' : World} {workflow : String} {input : ι} {live : Live σ}
      (h : Timely p limits readable ⟨w, none⟩)
      (hstart : (recoverOrStart p workflow input : ExceptT ExecutorError WorldM _).run.run w =
        (.ok live, w')) :
      Checked p limits readable w' live

/-- At a check on a clock outside leap seconds the store is bounded and the loop's run ripe. -/
theorem Checked.ripe (hlimits : 2 ≤ limits.maxEvents) {w : World} {live : Live σ}
    (h : Checked p limits Instant.Leapless w live) :
    w.clock.now.Leapless ∧ w.limits = limits ∧ Bounded limits w.clock.now w.store ∧
      Ripe live w.store := by
  -- the work before the check ran at the scene's instant, which it leaves as it is
  have hafter : ∀ {t : Instant}, t.Leapless → w.clock.now = t → w.limits = limits →
      Holds limits t Ripe (.ok live) w.store →
      w.clock.now.Leapless ∧ w.limits = limits ∧ Bounded limits w.clock.now w.store ∧
        Ripe live w.store := by
    intro t hleap hc hl hh
    rw [hc]
    exact ⟨hleap, hl, hh⟩
  cases h with
  | @begun w₀ _ workflow input _ hscene hstart =>
    obtain ⟨hc, hl, hh⟩ := recoverOrStart_holds (p := p) hscene.clock_readable hlimits workflow
      input ((World.onBus (·.register workflow)).run w₀).2 rfl hscene.limits_eq
      (hscene.resting hlimits).1
    rw [hstart] at hc hl hh
    exact hafter hscene.clock_readable hc hl hh
  | @woken w₀ _ d wake _ hscene hwake hhandle =>
    have hrest := hscene.resting hlimits
    obtain ⟨hc, hl, hh⟩ := handle_holds (p := p) hscene.clock_readable d.workflow d.live wake
      { w₀ with bus := (w₀.bus.next d.mailbox).1 } rfl hscene.limits_eq ⟨hrest.1, hrest.2 _ rfl⟩
    rw [hhandle] at hc hl hh
    exact hafter hscene.clock_readable hc hl ⟨hh.1, hh.2 live rfl⟩
  | @cancelled w₀ _ workflow input _ hscene hstart =>
    obtain ⟨hc, hl, hh⟩ := recoverOrStart_holds (p := p) hscene.clock_readable hlimits workflow
      input w₀ rfl hscene.limits_eq (hscene.resting hlimits).1
    rw [hstart] at hc hl hh
    exact hafter hscene.clock_readable hc hl hh

/-! ### The history -/

/-- What the executor keeps of the history of its runs along every execution on one set of
limits and a clock that never runs backwards and never reads a leap second. -/
structure HistoryBounded (p : Program ι σ) (limits : Limits) : Prop where
  /-- Under a bound short of `2^64 − 1`, no running run holds more than one event past it. -/
  within : limits.Capped → ∀ sc, Timely p limits Instant.Leapless sc → ∀ id r,
    sc.world.store.find? id = some r → r.info.status.isRunning = true →
      r.events.length ≤ limits.maxEvents + 1
  /-- At most one input of a run is logged once the run is older than the age bound. -/
  late : ∀ sc, Timely p limits Instant.Leapless sc → ∀ id r, sc.world.store.find? id = some r →
    lateCount limits r ≤ 1
  /-- At every check the loop's run is running at the loop's position, which reads the number
  of its events as a signed 32-bit number; a run due by its count holds an input after its
  start. -/
  checked : ∀ w live, Checked p limits Instant.Leapless w live → ∃ r,
    w.store.find? live.run.run = some r ∧ r.info = live.run ∧ r.info.status.isRunning = true ∧
      live.sequence = Memory.sequenceOf r.events.length ∧
      (limits.maxEvents ≤ positionCount live.sequence → ∃ e ∈ r.events, e.isInput = true)
  /-- A continuation at a check files a successor holding its start alone, at position one,
  with the snapshot of the state the loop held. -/
  continued : ∀ w live, Checked p limits Instant.Leapless w live → ∀ live' w',
    (continueAsNew p live : ExceptT ExecutorError WorldM _).run.run w = (.ok live', w') →
      live'.sequence = 1 ∧
      w'.store.find? live'.run.run =
        some ⟨live'.run, [.started (p.encode (p.snapshot live.state)) w.clock.now]⟩
  /-- No loop begins or wakes up to end on a concurrency conflict. -/
  unconflicted : ∀ sc, Timely p limits Instant.Leapless sc → ∀ x y,
    (∀ workflow input, sc.loop = none →
      ((Driving.begin p workflow input).run sc.world).1 ≠ .finished (.error (.store (.conflict x y)))) ∧
    (∀ d cancelled, sc.loop = some d →
      ((d.poll p cancelled).run sc.world).1 ≠ .finished (.error (.store (.conflict x y))))

/-- Under an event bound of two or more, along every execution on one set of limits and a clock
that never runs backwards and never reads a leap second, the executor keeps the history of its
runs bounded. -/
theorem history_bounded (hlimits : 2 ≤ limits.maxEvents) : HistoryBounded p limits where
  within hcap sc h id r hfind hrun := by
    have hwithin := (h.resting hlimits).1.within id r hfind hrun hcap
    have hle := threshold_le limits.maxEvents
    rcases hwithin with hlen | ⟨hlen, -⟩ <;> omega
  late sc h id r hfind := (h.resting hlimits).1.late id r hfind
  checked w live h := by
    obtain ⟨-, -, hb, r, hfind, hinfo, hrun, hseq⟩ := h.ripe hlimits
    refine ⟨r, hfind, hinfo, hrun, hseq, fun hdue ↦ ?_⟩
    -- a bound of two or more is due only from two events on, and the second is an input
    rw [hseq] at hdue
    exact (hb.written _ r hfind hrun).input_of_two_le (two_le_of_le_positionCount hlimits hdue)
  continued w live h live' w' hcontinue := by
    obtain ⟨hleap, hl, hb, -⟩ := h.ripe hlimits
    obtain ⟨-, -, hh⟩ := continueAsNew_holds (p := p) hleap hlimits live w rfl hl hb
    rw [hcontinue] at hh
    exact hh.2
  unconflicted sc h x y := by
    have hrest := h.resting hlimits
    refine ⟨fun workflow input _ ↦ ?_, fun d cancelled hd ↦ ?_⟩
    · obtain ⟨-, -, hheld⟩ := Driving.begin_held (p := p) h.clock_readable hlimits workflow input
        sc.world rfl h.limits_eq hrest.1
      exact hheld.unconflicted x y
    · obtain ⟨-, -, hheld⟩ := Driving.poll_held (p := p) h.clock_readable hlimits cancelled d
        sc.world rfl h.limits_eq ⟨hrest.1, hrest.2 d.live (by rw [hd]; rfl)⟩
      exact hheld.unconflicted x y

/-- The echo workflow under the default limits keeps its history bounded. -/
theorem echo_history_bounded :
    2 ≤ Limits.default.maxEvents ∧ HistoryBounded echo Limits.default :=
  ⟨by decide, history_bounded (by decide)⟩

/-- Limits with an age bound of half a minute. -/
def halfMinute : Limits := ⟨Span.ofSeconds 30, 10000⟩

/-- A ping with an empty payload, sent at `at_`. -/
def ping (at_ : Instant) : Signal := ⟨"ping", .record [], at_⟩

/-- The world with its clock set to `at_`. -/
def World.atInstant (w : World) (at_ : Instant) : World := { w with clock := ⟨at_⟩ }

/-- The world once the next continuation is set to fail, the clock set to `at_`, and a ping sent
to the echo loop. -/
def pinged (w : World) (at_ : Instant) : World :=
  { w.atInstant at_ with faults := w.faults.arm ⟨.continueAsNew, 0, 1, false⟩,
                         bus := (w.bus.signal "echo" (ping at_)).1 }

/-- On a clock that reads a leap second a run logs two late inputs. Begun at half past twelve on
the first of March 2026 under an age bound of half a minute, the echo run logs a ping in the leap
second that ends the minute, thirty and a half seconds after it began, and its continuation
fails; the loop that recovers it at one o'clock finds it exactly thirty seconds old, young
enough, and it logs a second ping half a second later. -/
theorem leap_second_admits_two_late_inputs :
    ∃ sc, Timely echo halfMinute (fun _ ↦ True) sc ∧
      ∃ id r, sc.world.store.find? id = some r ∧ 2 ≤ lateCount halfMinute r := by
  have h₀ : Timely echo halfMinute (fun _ ↦ True)
      ⟨World.fresh ⟨1772366430, 0⟩ halfMinute, none⟩ := .start _ rfl rfl trivial
  -- the first loop starts the run, logs a ping in the leap second and fails to continue it
  have h₁ := h₀.step (.begin _ "echo" (0 : Nat) rfl) (by rfl) (by exact Instant.le_refl _) trivial
  have h₂ := h₁.outside (pinged · ⟨1772366459, 1500000000⟩) (by rfl) (by rfl) (by decide) trivial
  have h₃ := h₂.step (.poll _ _ false) (by rfl) (by exact Instant.le_refl _) trivial
  -- at one o'clock a second loop recovers the run, logs another ping and fails to continue it
  have h₄ := h₃.outside (World.atInstant · ⟨1772366460, 0⟩) (by rfl) (by rfl) (by decide) trivial
  have h₅ := h₄.step (.begin _ "echo" (0 : Nat) rfl) (by rfl) (by exact Instant.le_refl _) trivial
  have h₆ := h₅.outside (pinged · ⟨1772366460, 500000000⟩) (by rfl) (by rfl) (by decide) trivial
  have h₇ := h₆.step (.poll _ _ false) (by rfl) (by exact Instant.le_refl _) trivial
  exact ⟨_, h₇, Uuid.minted 0, _, rfl, by decide⟩

end SlotKeeper.Engine
