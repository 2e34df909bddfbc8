import SlotKeeper.Proofs.Engine.Specs

/-!
# Executions of the run loop

A `Scene` is the world together with the run loop that is live in it, if any. A `Step` is one
thing that can happen next: a loop begins (a new run call, or a supervisor's rerun) when none is
live; the live loop handles one wake-up, cancelled or not; the live loop is aborted while it
waits; another party terminates a workflow or closes a run; a run cancelled before its loop
began is settled and closed; and everything else the process does, which leaves the store
alone: signals and queries, the clock set anywhere, faults planned, limits changed. Failures
between the store calls of one wake-up are the fault plan's failures, which end the wake-up
there. A loop begins from an input that survives its own encoding, as a fresh start files the
encoded input and a recovery reads it back. At most one loop is live at a time: a loop that
another displaces is stood for by the steps it can still take on the store, an abort and a close.

`Reachable p` holds of the scenes reached by steps from a world with an empty store. The main
statement, `Reachable.steady`: for a total program, every reachable scene has a sound store,
and its live loop tracks its run with nothing pending. So the live state is always what the
logged inputs of the current run lead to from its logged input, and every running run has the
executor's shape.
-/

namespace SlotKeeper.Engine

open Json Workflow Store

variable {ι σ : Type}

/-- The world and the run loop live in it, if any. -/
structure Scene (σ : Type) where
  world : World
  loop : Option (Driving σ)

namespace Scene

/-- The scene after a step of the loop: it still waits, or it has ended. -/
def after : Progress σ × World → Scene σ
  | (.waiting d, w) => ⟨w, some d⟩
  | (.finished _, w) => ⟨w, none⟩

/-- The scene once the live loop handled one wake-up; with no live loop nothing happens. -/
def wake (p : Program ι σ) (cancelled : Bool) (sc : Scene σ) : Scene σ :=
  match sc.loop with
  | some d => after ((d.poll p cancelled).run sc.world)
  | none => sc

/-- The store is sound and the live loop, if any, tracks its run with nothing pending. -/
def Steady (p : Program ι σ) (sc : Scene σ) : Prop :=
  Engine.Steady p (sc.loop.map (·.live)) sc.world.store

theorem Steady.tracks {p : Program ι σ} {sc : Scene σ} (h : sc.Steady p) {d : Driving σ}
    (hd : sc.loop = some d) : Tracks p sc.world.store d.live [] :=
  h.2 d.live (by rw [hd]; rfl)

theorem steady_after {p : Program ι σ} {progress : Progress σ} {w : World}
    (h : Advanced p progress w.store) : (after (progress, w)).Steady p := by
  cases progress with
  | waiting d => exact ⟨h.1, fun live hlive ↦ by cases hlive; exact h.2⟩
  | finished outcome => exact ⟨h, nofun⟩

end Scene

/-- One thing that can happen next. -/
inductive Step (p : Program ι σ) : Scene σ → Scene σ → Prop
  /-- A loop begins when none is live. -/
  | begin (w : World) (workflow : String) (input : ι)
      (hround : p.restore (p.encode input) = .ok (p.new input)) :
      Step p ⟨w, none⟩ (Scene.after ((Driving.begin p workflow input).run w))
  /-- The live loop handles one wake-up. -/
  | poll (w : World) (d : Driving σ) (cancelled : Bool) :
      Step p ⟨w, some d⟩ (Scene.after ((d.poll p cancelled).run w))
  /-- The live loop is aborted while it waits: its mailbox is dropped, its run left running. -/
  | abort (w : World) (d : Driving σ) :
      Step p ⟨w, some d⟩ ⟨((World.changeBus (·.release d.mailbox)).run w).2, none⟩
  /-- Anything that leaves the store alone. -/
  | outside (w w' : World) (loop : Option (Driving σ)) (hstore : w'.store = w.store) :
      Step p ⟨w, loop⟩ ⟨w', loop⟩
  /-- Another party terminates the latest run of a workflow. -/
  | terminated (w : World) (loop : Option (Driving σ)) (workflow reason : String) :
      Step p ⟨w, loop⟩
        ⟨((Engine.terminate workflow reason : ExceptT ExecutorError WorldM _).run.run w).2, loop⟩
  /-- Another party closes a run, as a displaced loop does when it is cancelled. -/
  | closed (w : World) (loop : Option (Driving σ)) (run : RunInfo) (status : Status)
      (reason : String) :
      Step p ⟨w, loop⟩
        ⟨((Engine.close run status reason : ExceptT ExecutorError WorldM _).run.run w).2, loop⟩
  /-- A run whose owner cancelled it before its loop began. -/
  | cancelled (w : World) (workflow : String) (input : ι)
      (hround : p.restore (p.encode input) = .ok (p.new input)) :
      Step p ⟨w, none⟩
        ⟨((runCancelled p w.limits workflow input : ExceptT ExecutorError WorldM _).run.run w).2,
          none⟩

/-- The scenes reached by steps from a world with an empty store. -/
inductive Reachable (p : Program ι σ) : Scene σ → Prop
  | start (w : World) (hw : w.store = Memory.empty) : Reachable p ⟨w, none⟩
  | step {sc sc' : Scene σ} (h : Reachable p sc) (hstep : Step p sc sc') : Reachable p sc'

variable {p : Program ι σ}

/-- Every step keeps a scene steady. -/
theorem Step.steady (hp : p.Total) {sc sc' : Scene σ} (hstep : Step p sc sc')
    (h : sc.Steady p) : sc'.Steady p := by
  cases hstep with
  | begin w workflow input hround =>
    exact Scene.steady_after (Driving.begin_spec workflow hround w h.1)
  | poll w d cancelled =>
    exact Scene.steady_after (Driving.poll_spec hp cancelled d w ⟨h.1, h.tracks rfl⟩)
  | abort w d => exact ⟨h.1, nofun⟩
  | outside w w' loop hstore =>
    show Engine.Steady p _ w'.store
    rw [hstore]
    exact h
  | terminated w loop workflow reason => exact terminate_spec _ workflow reason w h
  | closed w loop run status reason => exact close_spec _ run status reason w h
  | cancelled w workflow input hround =>
    exact ⟨runCancelled_spec w.limits workflow hround w h.1, nofun⟩

/-- Every reachable scene is steady. -/
theorem Reachable.steady (hp : p.Total) {sc : Scene σ} (h : Reachable p sc) : sc.Steady p := by
  induction h with
  | start w hw =>
    refine ⟨?_, nofun⟩
    rw [hw]
    exact Sound.empty p
  | step _ hstep ih => exact hstep.steady hp ih

namespace Reachable

variable {sc : Scene σ}

/-- Whatever leaves the store alone keeps a scene reachable. -/
theorem outside (h : Reachable p sc) (w : World) (hstore : w.store = sc.world.store) :
    Reachable p ⟨w, sc.loop⟩ :=
  .step h (.outside _ _ _ hstore)

/-- A signal that another party sends keeps a scene reachable. -/
theorem send (h : Reachable p sc) (identity : String) (s : Signal) :
    Reachable p ⟨{ sc.world with bus := (sc.world.bus.signal identity s).1 }, sc.loop⟩ :=
  h.outside _ rfl

/-- A wake-up of the live loop keeps a scene reachable. -/
theorem wake (h : Reachable p sc) (cancelled : Bool) : Reachable p (sc.wake p cancelled) := by
  rcases sc with ⟨w, _ | d⟩
  · exact h
  · exact .step h (.poll w d cancelled)

/-- The live loop of a reachable scene holds what the logged inputs of its run lead to from the
state its logged input restores to. -/
theorem live_state (hp : p.Total) (h : Reachable p sc) {d : Driving σ} (hd : sc.loop = some d) :
    ∃ r input at_ body s₀, sc.world.store.find? d.live.run.run = some r ∧
      r.events = .started input at_ :: body ∧ p.restore input = .ok s₀ ∧
      p.feed s₀ body = .ok d.live.state := by
  obtain ⟨r, input, at_, body, s₀, hfind, hevents, hrestore, hfeed, -⟩ := (h.steady hp).tracks hd
  exact ⟨r, input, at_, body, s₀, hfind, hevents, hrestore, hfeed⟩

/-- Every running run of a reachable scene has the executor's shape. -/
theorem shaped (hp : p.Total) (h : Reachable p sc) {id : Uuid} {r : StoredRun}
    (hfind : sc.world.store.find? id = some r) (hrun : r.info.status.isRunning = true) :
    Shaped p r :=
  (h.steady hp).1.shaped id r hfind hrun

/-- The state of a live loop is a function of its run's log: loops of two reachable scenes whose
runs hold the same events hold the same state. -/
theorem state_eq_of_events (hp : p.Total) {sc' : Scene σ} (h : Reachable p sc)
    (h' : Reachable p sc') {d d' : Driving σ} (hd : sc.loop = some d) (hd' : sc'.loop = some d')
    {r r' : StoredRun} (hfind : sc.world.store.find? d.live.run.run = some r)
    (hfind' : sc'.world.store.find? d'.live.run.run = some r') (hsame : r.events = r'.events) :
    d.live.state = d'.live.state := by
  obtain ⟨input, at_, body, s₀, hevents, hrestore, hfeed, -⟩ :=
    ((h.steady hp).tracks hd).found hfind
  obtain ⟨input', at', body', s₀', hevents', hrestore', hfeed', -⟩ :=
    ((h'.steady hp).tracks hd').found hfind'
  rw [hsame, hevents', List.cons.injEq, Event.started.injEq] at hevents
  obtain ⟨⟨rfl, -⟩, rfl⟩ := hevents
  rw [hrestore, Except.ok.injEq] at hrestore'
  subst hrestore'
  rw [hfeed] at hfeed'
  exact Except.ok.inj hfeed'

end Reachable

end SlotKeeper.Engine
