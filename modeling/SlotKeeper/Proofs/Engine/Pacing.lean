import Mathlib.Data.List.Chain
import SlotKeeper.Proofs.Engine.History
import SlotKeeper.Proofs.Pool.Recovery

/-!
# The pace of the timer

A run loop waits for its timer to reach a deadline. The deadline is armed when the loop begins,
an interval after the instant it starts or recovers its run, and again after every tick it logs,
an interval after the tick; the interval is the one the program's state gives at that moment.
Signals, queries and continuations leave it as it is.

Along an execution the timer's history is kept beside the scenes as a list of notes
(`TimerNote`): an arming at an instant with an interval, or a tick logged at an instant. A
`Journal` is an execution with the notes its steps make: a loop that begins notes its arming, a
wake-up notes the tick it logs and the arming after it, and nothing else touches a timer. Every
execution has a journal (`Timely.journal`). What one wake-up does to the timer, read off the
executor, is one of the three moves of `Driving.TimerMove` (`Driving.poll_moves`): it notes
nothing and keeps the deadline, or logs a tick at a passed deadline and arms again, or logs a tick
it fails to process and ends.

The invariant `Paced` ties the notes to the scene: the live loop's deadline is one interval after
the last note, an arming; the notes are readings of the clock; and each tick comes at or after
the deadline armed just before it. Each step keeps it (`Paced.step`), so every journal is paced
(`Journal.paced`).

The main statement, `ticks_paced`: on a clock that never reads a leap second, every tick waits
for the deadline armed before it, and any two ticks are at least the interval of the later one's
arming apart, unless the later one is at the end of time; with a positive interval, no two ticks
share a clock reading but there. Adding a second or more to a reading inside a leap second counts
the reading as the same fraction into the second before it (a reading 0.3 s into the leap second
plus half a minute is 29.3 s into the next minute), so a loop that recovers its run inside a leap
second arms a deadline up to a second earlier than one interval after the recovery, which can be
less than an interval after a tick logged just before it: `leap_second_recovery_ticks_early`.
-/

namespace SlotKeeper

/-! ### Deadlines on the time line -/

namespace Instant

/-- Outside a leap second, adding a span adds its nanoseconds. -/
theorem plus_of_leapless {t : Instant} (ht : t.Leapless) (d : Span) :
    t.plus d = ⟨t.secs + (d.secs : Int) + ((t.frac + d.subsecNanos) / nanosPerSecond : Nat),
      (t.frac + d.subsecNanos) % nanosPerSecond⟩ := by
  have hl : t.inLeapSecond = false := ht
  simp [plus, hl]

theorem plus_leapless {t : Instant} (ht : t.Leapless) (d : Span) : (t.plus d).Leapless := by
  rw [plus_of_leapless ht]
  show decide (nanosPerSecond ≤ (t.frac + d.subsecNanos) % nanosPerSecond) = false
  have hlt := Nat.mod_lt (t.frac + d.subsecNanos) (show 0 < nanosPerSecond by decide)
  simp only [decide_eq_false_iff_not, Nat.not_le]
  exact hlt

/-- Outside a leap second, a span after an instant is that span later. -/
theorem since_plus {t : Instant} (ht : t.Leapless) (d : Span) : (t.plus d).since t = d.nanos := by
  rw [since_of_leapless (plus_leapless ht d) ht, plus_of_leapless ht]
  dsimp only
  unfold Span.secs Span.subsecNanos Span.nanosPerSecond nanosPerSecond
  omega

/-- Outside leap seconds, an instant at or after `a` plus a span is at least that span after any
instant up to `a`. -/
theorem span_le_since {t a u : Instant} {d : Span} (ht : t.Leapless) (ha : a.Leapless)
    (hu : u.Leapless) (hta : t ≤ a) (hau : a.plus d ≤ u) : (d.nanos : Int) ≤ u.since t := by
  have hplus := since_plus ha d
  rw [since_of_leapless (plus_leapless ha d) ha] at hplus
  rw [since_of_leapless hu ht]
  have hta' : t.secs < a.secs ∨ (t.secs = a.secs ∧ t.frac ≤ a.frac) := hta
  have hau' : (a.plus d).secs < u.secs ∨ ((a.plus d).secs = u.secs ∧ (a.plus d).frac ≤ u.frac) :=
    hau
  have := frac_lt_of_leapless ht
  have := frac_lt_of_leapless ha
  have := frac_lt_of_leapless hu
  have := frac_lt_of_leapless (plus_leapless ha d)
  omega

end Instant

namespace Engine

open Json Workflow Store

theorem tickAfter_cases (t : Instant) (d : Span) :
    tickAfter t d = t.plus d ∨ tickAfter t d = Instant.max := by
  unfold tickAfter Instant.deadlineAfter
  split
  · dsimp only
    split
    · exact .inl rfl
    · exact .inr rfl
  · exact .inr rfl

/-- A reading at or after the deadline armed at `a` is at least the interval after every instant
up to `a`, unless the deadline fell past the end of time. -/
theorem spaced_of_armed {t a u : Instant} {i : Span} (ht : t.Leapless) (ha : a.Leapless)
    (hu : u.Leapless) (hta : t ≤ a) (hau : tickAfter a i ≤ u) :
    i ≤ u.elapsedSince t ∨ Instant.max ≤ u := by
  rcases tickAfter_cases a i with h | h <;> rw [h] at hau
  · have hle := Instant.span_le_since ht ha hu hta hau
    refine .inl ?_
    show i.nanos ≤ (u.since t).toNat
    omega
  · exact .inr hau

/-- Two readings at least a positive span apart are distinct, the later after the earlier. -/
theorem lt_of_spaced {t u : Instant} {i : Span} (ht : t.Leapless) (hu : u.Leapless)
    (hi : 0 < i.nanos) (h : i ≤ u.elapsedSince t) : t < u := by
  have h' : i.nanos ≤ (u.since t).toNat := h
  rw [Instant.since_of_leapless hu ht] at h'
  have := Instant.frac_lt_of_leapless ht
  have := Instant.frac_lt_of_leapless hu
  show t.secs < u.secs ∨ (t.secs = u.secs ∧ t.frac < u.frac)
  omega

/-! ### Timer notes -/

/-- What happens to the timer of a run loop: it is armed at an instant with an interval, its
deadline falling one interval later, or a tick is logged at an instant. -/
inductive TimerNote where
  | armed (at_ : Instant) (interval : Span)
  | fired (at_ : Instant)
  deriving DecidableEq

namespace TimerNote

/-- The instant of a note. -/
def at_ : TimerNote → Instant
  | armed t _ => t
  | fired t => t

/-- One note paces the next: the next is no earlier, and a tick comes after an arming, at or after
its deadline. -/
def Paces : TimerNote → TimerNote → Prop
  | x, armed t _ => x.at_ ≤ t
  | armed a i, fired t => a ≤ t ∧ tickAfter a i ≤ t
  | fired _, fired _ => False

theorem Paces.at_le {x y : TimerNote} (h : Paces x y) : x.at_ ≤ y.at_ := by
  cases x <;> cases y
  · exact h
  · exact h.1
  · exact h
  · exact h.elim

/-- In a chain of paced notes, a note is no later than any note after it. -/
theorem at_le_of_chain {x y : TimerNote} :
    ∀ {mid post : List TimerNote}, (x :: mid ++ y :: post).IsChain Paces → x.at_ ≤ y.at_
  | [], _, h => (List.isChain_cons_cons.mp h).1.at_le
  | _ :: _, _, h =>
    Instant.le_trans (List.isChain_cons_cons.mp h).1.at_le
      (at_le_of_chain (List.isChain_cons_cons.mp h).2)

/-- Two neighbours in a chain pace one another. -/
theorem paces_of_chain {x y : TimerNote} {pre post : List TimerNote}
    (h : (pre ++ x :: y :: post).IsChain Paces) : Paces x y := by
  obtain ⟨-, hrest, -⟩ := List.isChain_append.mp h
  exact (List.isChain_cons_cons.mp hrest).1

end TimerNote

variable {ι σ : Type} {p : Program ι σ}

namespace Driving

/-- The timer notes of a loop that begins: once its run is started or recovered, it arms its
timer at the current instant with the interval of the state it starts or recovers. -/
def beginNotes (p : Program ι σ) (workflow : String) (input : ι) (w : World) : List TimerNote :=
  match ((recoverOrStart p workflow input : ExceptT ExecutorError WorldM _).run.run
      { w with bus := (w.bus.register workflow).1 }).1 with
  | .ok live => [.armed w.clock.now (p.interval live.state)]
  | .error _ => []

/-- The timer notes of a wake-up. One that is not cancelled, finds its mailbox empty and its
deadline passed logs a tick at the current instant when the store takes it, and arms the timer
again from that instant, with the interval of the state the tick leads to, once the tick is
processed. -/
def pollNotes (p : Program ι σ) (cancelled : Bool) (d : Driving σ) (w : World) :
    List TimerNote :=
  if !cancelled && (w.bus.next d.mailbox).2.isNone && decide (d.live.nextTick ≤ w.clock.now) then
    match ((process p d.live (.ticked timerId w.clock.now) : ExceptT ExecutorError WorldM _).run.run
        { w with bus := (w.bus.next d.mailbox).1 }).1 with
    | .ok live => [.fired w.clock.now, .armed w.clock.now (p.interval live.state)]
    | .error _ =>
      if ((Engine.stored (EventStore.appendEvents d.live.run.run d.live.sequence
          [.ticked timerId w.clock.now] : WorldM _) : ExceptT ExecutorError WorldM Int).run.run
          { w with bus := (w.bus.next d.mailbox).1 }).1.isOk then [.fired w.clock.now]
      else []
  else []

end Driving

/-- A step with the timer notes it makes: a loop that begins and a wake-up make theirs, and no
other step touches a timer. -/
inductive NotedStep (p : Program ι σ) : Scene σ → Scene σ → List TimerNote → Prop
  | begin (w : World) (workflow : String) (input : ι)
      (hround : p.restore (p.encode input) = .ok (p.new input)) :
      NotedStep p ⟨w, none⟩ (Scene.after ((Driving.begin p workflow input).run w))
        (Driving.beginNotes p workflow input w)
  | poll (w : World) (d : Driving σ) (cancelled : Bool) :
      NotedStep p ⟨w, some d⟩ (Scene.after ((d.poll p cancelled).run w))
        (d.pollNotes p cancelled w)
  | abort (w : World) (d : Driving σ) :
      NotedStep p ⟨w, some d⟩ ⟨((World.changeBus (·.release d.mailbox)).run w).2, none⟩ []
  | outside (w w' : World) (loop : Option (Driving σ)) (hstore : w'.store = w.store) :
      NotedStep p ⟨w, loop⟩ ⟨w', loop⟩ []
  | terminated (w : World) (loop : Option (Driving σ)) (workflow reason : String) :
      NotedStep p ⟨w, loop⟩
        ⟨((Engine.terminate workflow reason : ExceptT ExecutorError WorldM _).run.run w).2, loop⟩ []
  | closed (w : World) (loop : Option (Driving σ)) (run : RunInfo) (status : Status)
      (reason : String) :
      NotedStep p ⟨w, loop⟩
        ⟨((Engine.close run status reason : ExceptT ExecutorError WorldM _).run.run w).2, loop⟩ []
  | cancelled (w : World) (workflow : String) (input : ι)
      (hround : p.restore (p.encode input) = .ok (p.new input)) :
      NotedStep p ⟨w, none⟩
        ⟨((runCancelled p w.limits workflow input : ExceptT ExecutorError WorldM _).run.run w).2,
          none⟩ []

/-- Every step makes its timer notes. -/
theorem Step.noted {sc sc' : Scene σ} (h : Step p sc sc') : ∃ new, NotedStep p sc sc' new := by
  cases h with
  | begin w workflow input hround => exact ⟨_, .begin w workflow input hround⟩
  | poll w d cancelled => exact ⟨_, .poll w d cancelled⟩
  | abort w d => exact ⟨_, .abort w d⟩
  | outside w w' loop hstore => exact ⟨_, .outside w w' loop hstore⟩
  | terminated w loop workflow reason => exact ⟨_, .terminated w loop workflow reason⟩
  | closed w loop run status reason => exact ⟨_, .closed w loop run status reason⟩
  | cancelled w workflow input hround => exact ⟨_, .cancelled w workflow input hround⟩

/-- A timely execution with the timer notes its steps made, in order. -/
inductive Journal (p : Program ι σ) (limits : Limits) (readable : Instant → Prop) :
    Scene σ → List TimerNote → Prop
  | start (w : World) (hw : w.store = Memory.empty) (hlimits : w.limits = limits)
      (hread : readable w.clock.now) : Journal p limits readable ⟨w, none⟩ []
  | step {sc sc' : Scene σ} {notes new : List TimerNote} (h : Journal p limits readable sc notes)
      (hstep : NotedStep p sc sc' new) (hlimits : sc'.world.limits = limits)
      (hclock : sc.world.clock.now ≤ sc'.world.clock.now) (hread : readable sc'.world.clock.now) :
      Journal p limits readable sc' (notes ++ new)

variable {limits : Limits} {readable : Instant → Prop}

/-- Every timely execution has a journal. -/
theorem Timely.journal {sc : Scene σ} (h : Timely p limits readable sc) :
    ∃ notes, Journal p limits readable sc notes := by
  induction h with
  | start w hw hlimits hread => exact ⟨[], .start w hw hlimits hread⟩
  | step _ hstep hlimits hclock hread ih =>
    obtain ⟨notes, hj⟩ := ih
    obtain ⟨new, hnoted⟩ := hstep.noted
    exact ⟨_, .step hj hnoted hlimits hclock hread⟩

theorem Journal.clock_readable {sc : Scene σ} {notes : List TimerNote}
    (h : Journal p limits readable sc notes) : readable sc.world.clock.now := by
  cases h with
  | start w hw hlimits hread => exact hread
  | step _ _ _ _ hread => exact hread

/-- Whatever the rest of the process does to the world, keeping the store and the limits and
setting the clock forward to a readable instant, extends a journal with no note. -/
theorem Journal.outside {sc : Scene σ} {notes : List TimerNote}
    (h : Journal p limits readable sc notes) (f : World → World)
    (hstore : (f sc.world).store = sc.world.store) (hlimits : (f sc.world).limits = limits)
    (hclock : sc.world.clock.now ≤ (f sc.world).clock.now)
    (hread : readable (f sc.world).clock.now) :
    Journal p limits readable ⟨f sc.world, sc.loop⟩ notes := by
  have hj := Journal.step h (.outside _ _ _ hstore) hlimits hclock hread
  rwa [List.append_nil] at hj

/-! ### Deadlines through the executor -/

section Deadlines

variable {t : Instant} {limits' : Limits}

/-- Handing back `a`: every success satisfies what `a` does. -/
theorem Timed.epure_of {α : Type} {P : Memory → Prop} {a : α} {Q : α → Prop} (h : Q a) :
    Timed t limits P (Pure.pure a : ExceptT ExecutorError WorldM α).run
      (fun r _ ↦ ∀ a', r = .ok a' → Q a') :=
  (Timed.epure _).mono (fun _ _ _ hr ↦ by cases hr; exact h) fun _ _ hq ↦ hq

/-- A failure has no success to speak of. -/
theorem Timed.ethrow_of {α : Type} {P : Memory → Prop} {Q : α → Prop} (e : ExecutorError) :
    Timed t limits P (throw e : ExceptT ExecutorError WorldM α).run
      (fun r _ ↦ ∀ a', r = .ok a' → Q a') :=
  (Timed.ethrow _).mono (fun _ _ _ hr ↦ nomatch hr) fun _ _ hq ↦ hq

/-- Delivering actions hands the live run back with its deadline and its state. -/
theorem deliver_keeps_deadline (live : Live σ) (actions : List Action) (bestEffort : Bool) :
    Timed t limits (fun _ ↦ True) (deliver live actions bestEffort).run
      (fun r _ ↦ ∀ live', r = .ok live' → live'.nextTick = live.nextTick ∧
        live'.state = live.state) := by
  unfold deliver
  refine Timed.ebind_of (Timed.sendAll bestEffort actions 0) (fun _ _ _ _ h ↦ nomatch h)
    fun count ↦ ?_
  refine Timed.ebind (M := fun _ _ ↦ True)
    (Timed.appendEvents _ _ _ (fun _ _ _ _ _ h ↦ nomatch h) fun _ _ _ _ _ _ ↦ trivial)
    fun sequence ↦ ?_
  exact Timed.epure_of ⟨rfl, rfl⟩

/-- Processing an input hands the live run back with its deadline. -/
theorem process_keeps_deadline (live : Live σ) (e : Event) :
    Timed t limits (fun _ ↦ True) (process p live e).run
      (fun r _ ↦ ∀ live', r = .ok live' → live'.nextTick = live.nextTick) := by
  unfold process
  refine Timed.ebind (M := fun _ _ ↦ True)
    (Timed.appendEvents _ _ _ (fun _ _ _ _ _ h ↦ nomatch h) fun _ _ _ _ _ _ ↦ trivial)
    fun sequence ↦ ?_
  dsimp only
  cases happly : p.apply live.state e with
  | error fault =>
    dsimp only
    rw [ExceptT.bind_throw]
    exact Timed.ethrow_of _
  | ok res =>
  obtain ⟨state, actions⟩ := res
  simp only [pure_bind]
  split
  · exact Timed.epure_of rfl
  · exact (deliver_keeps_deadline _ _ _).mono (fun _ _ ↦ trivial)
      fun _ _ h live' hr ↦ (h live' hr).1

/-- A continuation carries the deadline over to the successor. -/
theorem continueAsNew_keeps_deadline (live : Live σ) :
    Timed t limits (fun _ ↦ True) (continueAsNew p live).run
      (fun r _ ↦ ∀ live', r = .ok live' → live'.nextTick = live.nextTick) := by
  unfold continueAsNew
  dsimp only
  refine Timed.after_now ?_
  refine Timed.ebind (M := fun _ _ ↦ True)
    (Timed.continueAsNew _ _ _ (fun _ _ _ _ _ h ↦ nomatch h) fun _ _ _ _ _ ↦ trivial)
    fun successor ↦ ?_
  refine Timed.ebind (M := fun _ _ ↦ True)
    (Timed.restored p _ (fun _ _ _ _ ↦ trivial) fun _ _ _ _ h ↦ nomatch h) fun s₀ ↦ ?_
  exact Timed.epure_of rfl

theorem settle_keeps_deadline (live : Live σ) :
    Timed t limits (fun _ ↦ True) (settle p limits' live).run
      (fun r _ ↦ ∀ live', r = .ok live' → live'.nextTick = live.nextTick) := by
  unfold settle
  refine Timed.after_now ?_
  split
  · exact continueAsNew_keeps_deadline live
  · exact Timed.epure_of rfl

/-- A fresh start at `t` arms the timer from `t`, the instant the run starts. -/
theorem start_armed (workflow : String) (input : ι) :
    Timed t limits (fun _ ↦ True) (recoverOrStart.start p workflow input).run
      (fun r _ ↦ ∀ live, r = .ok live → live.nextTick = tickAfter t (p.interval live.state)) := by
  unfold recoverOrStart.start
  refine Timed.after_now ?_
  refine Timed.ebind (M := fun run _ ↦ run.startedAt = t)
    (Timed.startRun _ _ _ _ (fun _ _ _ _ _ h ↦ nomatch h) fun _ _ ↦ rfl) fun run ↦ ?_
  exact (Timed.epure _).mono (fun _ h _ hl ↦ by cases hl; rw [h]) fun _ _ h ↦ h

/-- A recovery at `t` arms the timer from `t`, with the interval of the state the log replays to. -/
theorem replay_armed (run : RunInfo) :
    Timed t limits (fun _ ↦ True) (replay p run).run
      (fun r _ ↦ ∀ live, r = .ok live → live.nextTick = tickAfter t (p.interval live.state)) := by
  unfold replay
  refine Timed.ebind (M := fun _ _ ↦ True)
    (Timed.loadEvents _ (fun _ _ _ _ _ h ↦ nomatch h) fun _ _ _ _ _ _ ↦ trivial) fun events ↦ ?_
  split
  · refine Timed.ebind (M := fun _ _ ↦ True)
      (Timed.restored p _ (fun _ _ _ _ ↦ trivial) fun _ _ _ _ h ↦ nomatch h) fun s₀ ↦ ?_
    refine Timed.ebind (M := fun _ _ ↦ True) ((Timed.emk _).mono (fun _ _ ↦ ?_) fun _ _ h ↦ h)
      fun ⟨s, pending⟩ ↦ ?_
    · cases replayInputs p run s₀ [] _ with
      | ok _ => trivial
      | error _ => exact fun _ h ↦ nomatch h
    dsimp only
    refine Timed.after_now ?_
    split
    · exact Timed.epure_of rfl
    · -- delivering the pending actions keeps the deadline and the replayed state
      refine (deliver_keeps_deadline _ _ _).mono (fun _ _ ↦ trivial) fun _ _ h live hr ↦ ?_
      obtain ⟨htick, hstate⟩ := h live hr
      rw [htick, hstate]
  · exact Timed.ethrow_of _

/-- A loop that starts or recovers its run at `t` arms its timer from `t`. -/
theorem recoverOrStart_armed (workflow : String) (input : ι) :
    Timed t limits (fun _ ↦ True) (recoverOrStart p workflow input).run
      (fun r _ ↦ ∀ live, r = .ok live → live.nextTick = tickAfter t (p.interval live.state)) := by
  unfold recoverOrStart
  refine Timed.ebind (M := fun _ _ ↦ True)
    (Timed.currentRun _ (fun _ _ _ h ↦ nomatch h) fun _ _ ↦ trivial) fun current ↦ ?_
  rcases current with _ | run
  · exact start_armed workflow input
  dsimp only
  split
  · split
    · exact Timed.ethrow_of _
    · exact replay_armed run
  · exact start_armed workflow input

/-- Handling a signal hands the live run back with its deadline. -/
theorem handle_signal_keeps_deadline (workflow : String) (live : Live σ) (s : Signal) :
    Timed t limits (fun _ ↦ True) (handle p workflow live (.signal s)).run
      (fun r _ ↦ ∀ live', r = .ok (some live') → live'.nextTick = live.nextTick) := by
  refine Timed.after_now ?_
  refine Timed.ebind_of (process_keeps_deadline live _) (fun _ _ _ _ h ↦ nomatch h)
    fun live' ↦ ?_
  exact (Timed.epure _).mono (fun _ h _ hl ↦ by cases hl; exact h live' rfl) fun _ _ h ↦ h

end Deadlines

/-- Work that first reads the clock goes on with the clock's reading. -/
theorem run_after_now {ε β : Type} (f : Instant → ExceptT ε WorldM β) (w : World) :
    ((liftM (Host.now : WorldM Instant) : ExceptT ε WorldM Instant) >>= f).run.run w =
      (f w.clock.now).run.run w :=
  rfl

/-- A wake-up on the timer processes the tick stamped now and arms the timer an interval after it,
with the interval of the state the tick leads to. -/
theorem handle_timer_run (workflow : String) (live : Live σ) (w : World) :
    (handle p workflow live .timer : ExceptT ExecutorError WorldM _).run.run w =
      match (process p live (.ticked timerId w.clock.now) : ExceptT ExecutorError WorldM _).run.run
          w with
      | (.ok live', w') =>
        (.ok (some { live' with nextTick := tickAfter w.clock.now (p.interval live'.state) }), w')
      | (.error e, w') => (.error e, w') := by
  simp only [handle]
  rw [run_after_now]
  simp only [ExceptT.run_bind, StateT.run_bind]
  generalize (process p live (.ticked timerId w.clock.now) : ExceptT ExecutorError WorldM _).run.run
    w = processed
  obtain ⟨e | live', w'⟩ := processed <;> rfl

/-! ### The timer through the loop -/

namespace Driving

/-- What a wake-up does to the timer, read off the notes it makes and the progress it leaves. -/
inductive TimerMove (d : Driving σ) (now : Instant) : List TimerNote → Progress σ → Prop
  /-- No tick: a loop that goes on waiting keeps its deadline. -/
  | idle {progress : Progress σ}
      (hkeep : ∀ d', progress = .waiting d' → d'.live.nextTick = d.live.nextTick) :
      TimerMove d now [] progress
  /-- A tick at the passed deadline and the arming after it, whose deadline a loop that goes on
  waiting keeps. -/
  | rearmed {progress : Progress σ} (i : Span) (hdue : d.live.nextTick ≤ now)
      (harmed : ∀ d', progress = .waiting d' → d'.live.nextTick = tickAfter now i) :
      TimerMove d now [.fired now, .armed now i] progress
  /-- A tick at the passed deadline that the loop failed to process, which ends it. -/
  | failed (outcome : Except ExecutorError Unit) (hdue : d.live.nextTick ≤ now) :
      TimerMove d now [.fired now] (.finished outcome)

theorem rest_deadline (d : Driving σ) (w : World) {d' : Driving σ}
    (h : ((rest p d).run w).1 = .waiting d') : d'.live.nextTick = d.live.nextTick := by
  have hsettle : ∀ live, ((settle p w.limits d.live : ExceptT ExecutorError WorldM _).run.run w).1 =
      .ok live → live.nextTick = d.live.nextTick :=
    (settle_keeps_deadline d.live w rfl rfl trivial).2.2
  unfold rest at h
  simp only [StateT.run_bind, StateT.run_get, pure_bind] at h
  generalize ((settle p w.limits d.live : ExceptT ExecutorError WorldM _).run.run w) = settled
    at h hsettle
  obtain ⟨e | live, w'⟩ := settled
  · cases h
  · cases h
    exact hsettle live rfl

theorem react_signal_deadline (d : Driving σ) (s : Signal) (w : World) {d' : Driving σ}
    (h : ((poll.react p d (.signal s)).run w).1 = .waiting d') :
    d'.live.nextTick = d.live.nextTick := by
  have hhandle : ∀ live, ((handle p d.workflow d.live (.signal s) : ExceptT ExecutorError WorldM _
      ).run.run w).1 = .ok (some live) → live.nextTick = d.live.nextTick :=
    (handle_signal_keeps_deadline d.workflow d.live s w rfl rfl trivial).2.2
  unfold poll.react at h
  simp only [StateT.run_bind] at h
  generalize ((handle p d.workflow d.live (.signal s) : ExceptT ExecutorError WorldM _).run.run w) =
    handled at h hhandle
  obtain ⟨e | _ | live, w'⟩ := handled
  · cases h
  · cases h
  · rw [rest_deadline _ _ h]
    exact hhandle live rfl

/-- Every wake-up moves the timer in one of the three ways of `TimerMove`. -/
theorem poll_moves (cancelled : Bool) (d : Driving σ) (w : World) :
    d.TimerMove w.clock.now (d.pollNotes p cancelled w) ((d.poll p cancelled).run w).1 := by
  cases cancelled with
  | true =>
    refine .idle fun d' h ↦ ?_
    unfold poll at h
    rw [if_pos rfl] at h
    simp only [StateT.run_bind] at h
    generalize ((handle p d.workflow d.live .cancelled : ExceptT ExecutorError WorldM _).run.run
      w) = handled at h
    obtain ⟨e | _, w'⟩ := handled <;> cases h
  | false =>
  unfold poll pollNotes
  rw [if_neg Bool.false_ne_true]
  simp only [StateT.run_bind, World.onBus_run, Bool.not_false, Bool.true_and]
  generalize (w.bus.next d.mailbox).2 = item
  rcases item with _ | (q | s | _)
  · -- nothing in the mailbox: a tick, if the deadline has passed
    show TimerMove _ _ _ ((if d.live.nextTick ≤ w.clock.now then poll.react p d .timer
      else pure (.waiting d)).run { w with bus := (w.bus.next d.mailbox).1 }).1
    by_cases hdue : d.live.nextTick ≤ w.clock.now
    swap
    · rw [if_neg hdue]
      simp only [Option.isNone_none, Bool.true_and, decide_eq_false hdue, Bool.false_eq_true,
        if_false]
      exact .idle fun d' h ↦ by cases h; rfl
    rw [if_pos hdue]
    simp only [Option.isNone_none, Bool.true_and, decide_eq_true hdue, if_true]
    unfold poll.react
    simp only [StateT.run_bind]
    rw [handle_timer_run]
    dsimp only
    generalize (process p d.live (.ticked timerId w.clock.now) : ExceptT ExecutorError WorldM _
      ).run.run { w with bus := (w.bus.next d.mailbox).1 } = processed
    obtain ⟨e | live, w'⟩ := processed
    · -- the tick was logged only if its append went through; either way the loop ends
      show TimerMove _ _ _ (Progress.finished (.error e))
      dsimp only
      split
      · exact .failed _ hdue
      · exact .idle fun _ h ↦ nomatch h
    · show TimerMove d w.clock.now [.fired w.clock.now, .armed w.clock.now (p.interval live.state)]
        ((rest p { d with live := { live with
          nextTick := tickAfter w.clock.now (p.interval live.state) } }).run w').1
      exact .rearmed _ hdue fun d' h ↦ rest_deadline _ _ h
  · exact .idle fun d' h ↦ by cases h; rfl
  · exact .idle fun d' h ↦ react_signal_deadline d s _ h
  · exact .idle fun d' h ↦ by cases h

/-- A loop that begins registers its mailbox, then rests with the run it starts or recovers, or
drops the mailbox when it has none. -/
theorem begin_run (workflow : String) (input : ι) (w : World) :
    (begin p workflow input).run w =
      match (recoverOrStart p workflow input : ExceptT ExecutorError WorldM _).run.run
          { w with bus := (w.bus.register workflow).1 } with
      | (.ok live, w') => (rest p ⟨workflow, (w.bus.register workflow).2, live⟩).run w'
      | (.error e, w') =>
        (.finished (.error e), { w' with bus := w'.bus.release (w.bus.register workflow).2 }) := by
  unfold begin
  rw [World.onBus_bind_run]
  simp only [StateT.run_bind]
  generalize (recoverOrStart p workflow input : ExceptT ExecutorError WorldM _).run.run
    { w with bus := (w.bus.register workflow).1 } = started
  obtain ⟨e | live, w'⟩ := started <;> rfl

/-- A loop that begins notes the arming of its timer once it has its run, and a loop that goes on
waiting has that arming's deadline. -/
theorem begin_armed (workflow : String) (input : ι) (w : World) :
    (beginNotes p workflow input w = [] ∧ ∀ d', ((begin p workflow input).run w).1 ≠ .waiting d') ∨
    ∃ i, beginNotes p workflow input w = [.armed w.clock.now i] ∧
      ∀ d', ((begin p workflow input).run w).1 = .waiting d' →
        d'.live.nextTick = tickAfter w.clock.now i := by
  have harmed : ∀ live, ((recoverOrStart p workflow input : ExceptT ExecutorError WorldM _).run.run
      { w with bus := (w.bus.register workflow).1 }).1 = .ok live →
      live.nextTick = tickAfter w.clock.now (p.interval live.state) :=
    (recoverOrStart_armed workflow input _ rfl rfl trivial).2.2
  rw [begin_run]
  unfold beginNotes
  generalize ((recoverOrStart p workflow input : ExceptT ExecutorError WorldM _).run.run
      { w with bus := (w.bus.register workflow).1 }) = started at harmed ⊢
  obtain ⟨e | live, w'⟩ := started
  · exact .inl ⟨rfl, fun d' h ↦ by cases h⟩
  · refine .inr ⟨_, rfl, fun d' h ↦ ?_⟩
    exact (rest_deadline _ _ h).trans (harmed live rfl)

end Driving

theorem Scene.loop_after {progress : Progress σ} {w : World} {d : Driving σ}
    (h : (Scene.after (progress, w)).loop = some d) : progress = .waiting d := by
  cases progress with
  | waiting d' => cases h; rfl
  | finished o => cases h

/-! ### The invariant -/

/-- The timer notes agree with the scene: the live loop's deadline is one interval after the last
note, an arming; every note is a readable reading of the clock, no later than now; the first note
is no tick; and each note paces the next. -/
structure Paced (readable : Instant → Prop) (sc : Scene σ) (notes : List TimerNote) : Prop where
  armed : ∀ d, sc.loop = some d → ∃ a i, notes.getLast? = some (.armed a i) ∧
    d.live.nextTick = tickAfter a i
  read : ∀ n ∈ notes, readable n.at_ ∧ n.at_ ≤ sc.world.clock.now
  first : ∀ t, notes.head? ≠ some (.fired t)
  chain : notes.IsChain TimerNote.Paces

namespace Paced

variable {sc sc' : Scene σ} {notes : List TimerNote}

theorem start (w : World) : Paced (σ := σ) readable ⟨w, none⟩ [] :=
  ⟨(fun _ h ↦ nomatch h), (fun _ h ↦ nomatch h), (fun _ h ↦ nomatch h), .nil⟩

/-- A step that notes nothing, after which a live loop is one that was live before with the same
deadline, keeps the notes paced. -/
theorem quiet (hp : Paced readable sc notes) (hclock : sc.world.clock.now ≤ sc'.world.clock.now)
    (hloop : ∀ d', sc'.loop = some d' →
      ∃ d, sc.loop = some d ∧ d'.live.nextTick = d.live.nextTick) :
    Paced readable sc' notes where
  armed d' hd' := by
    obtain ⟨d, hd, hdeadline⟩ := hloop d' hd'
    obtain ⟨a, i, hlast, harmed⟩ := hp.armed d hd
    exact ⟨a, i, hlast, hdeadline.trans harmed⟩
  read n hn := ⟨(hp.read n hn).1, Instant.le_trans (hp.read n hn).2 hclock⟩
  first := hp.first
  chain := hp.chain

/-- A note made now, readable, extends the readings. -/
theorem read_concat (hp : Paced readable sc notes) (hread : readable sc.world.clock.now)
    (hclock : sc.world.clock.now ≤ sc'.world.clock.now) {x : TimerNote}
    (hx : x.at_ = sc.world.clock.now) :
    ∀ n ∈ notes ++ [x], readable n.at_ ∧ n.at_ ≤ sc'.world.clock.now := by
  intro n hn
  rcases List.mem_append.mp hn with hold | hnew
  · exact ⟨(hp.read n hold).1, Instant.le_trans (hp.read n hold).2 hclock⟩
  · rw [List.mem_singleton.mp hnew, hx]
    exact ⟨hread, hclock⟩

/-- Notes that do not open with a tick still do not once more are appended, unless they were
none and the new ones open with one. -/
theorem first_append {new : List TimerNote} {t : Instant} (hfirst : notes.head? ≠ some (.fired t))
    (hnew : notes = [] → new.head? ≠ some (.fired t)) : (notes ++ new).head? ≠ some (.fired t) := by
  cases notes with
  | nil => exact hnew rfl
  | cons x rest => exact hfirst

/-- The loop that begins arms its timer now: the notes stay paced, the arming the last of them. -/
theorem arm (hp : Paced readable sc notes) (hread : readable sc.world.clock.now)
    (hclock : sc.world.clock.now ≤ sc'.world.clock.now) (i : Span)
    (harmed : ∀ d', sc'.loop = some d' → d'.live.nextTick = tickAfter sc.world.clock.now i) :
    Paced readable sc' (notes ++ [.armed sc.world.clock.now i]) where
  armed d' hd' := ⟨_, i, List.getLast?_concat, harmed d' hd'⟩
  read := hp.read_concat hread hclock (x := .armed _ i) rfl
  first t := first_append (hp.first t) fun _ h ↦ nomatch h
  chain := by
    refine List.isChain_append.mpr ⟨hp.chain, List.isChain_singleton _, fun x hx y hy ↦ ?_⟩
    cases hy
    exact (hp.read x (List.mem_of_getLast? hx)).2

/-- The live loop logs a tick now, its deadline passed, and ends: the notes stay paced. -/
theorem fire {d : Driving σ} (hp : Paced readable sc notes) (hd : sc.loop = some d)
    (hdue : d.live.nextTick ≤ sc.world.clock.now) (hread : readable sc.world.clock.now)
    (hclock : sc.world.clock.now ≤ sc'.world.clock.now) (hend : sc'.loop = none) :
    Paced readable sc' (notes ++ [.fired sc.world.clock.now]) := by
  obtain ⟨a, i, hlast, harmed⟩ := hp.armed d hd
  refine ⟨(fun d' hd' ↦ nomatch hend.symm.trans hd'),
    hp.read_concat hread hclock (x := .fired _) rfl, fun t ↦ ?_, ?_⟩
  · -- the notes hold the arming, so the tick is not the first of them
    refine first_append (hp.first t) fun hnil ↦ ?_
    rw [hnil] at hlast
    exact nomatch hlast
  · refine List.isChain_append.mpr ⟨hp.chain, List.isChain_singleton _, fun x hx y hy ↦ ?_⟩
    rw [hlast, Option.mem_some_iff] at hx
    cases hy
    subst hx
    exact ⟨(hp.read _ (List.mem_of_getLast? hlast)).2, harmed ▸ hdue⟩

end Paced

/-- Every step keeps the notes paced. -/
theorem Paced.step {sc sc' : Scene σ} {notes new : List TimerNote} (hp : Paced readable sc notes)
    (hstep : NotedStep p sc sc' new) (hread : readable sc.world.clock.now)
    (hclock : sc.world.clock.now ≤ sc'.world.clock.now) : Paced readable sc' (notes ++ new) := by
  cases hstep with
  | begin w workflow input hround =>
    rcases Driving.begin_armed (p := p) workflow input w with ⟨hnil, hend⟩ | ⟨i, hnotes, harmed⟩
    · rw [hnil, List.append_nil]
      exact hp.quiet hclock fun d' hd' ↦ absurd (Scene.loop_after hd') (hend d')
    · rw [hnotes]
      exact hp.arm hread hclock i fun d' hd' ↦ harmed d' (Scene.loop_after hd')
  | poll w d cancelled =>
    -- the wake-up's notes and progress are read off its timer move
    have hmove := d.poll_moves (p := p) cancelled w
    generalize d.pollNotes p cancelled w = new at hmove ⊢
    generalize (d.poll p cancelled).run w = r at hmove hclock ⊢
    obtain ⟨progress, w'⟩ := r
    cases hmove with
    | idle hkeep =>
      rw [List.append_nil]
      exact hp.quiet hclock fun d' hd' ↦ ⟨d, rfl, hkeep d' (Scene.loop_after hd')⟩
    | rearmed i hdue harmed =>
      have hfired : Paced readable ⟨w, none⟩ (notes ++ [.fired w.clock.now]) :=
        hp.fire rfl hdue hread (Instant.le_refl _) rfl
      have hrearmed := hfired.arm hread hclock i fun d' hd' ↦ harmed d' (Scene.loop_after hd')
      rwa [List.append_assoc] at hrearmed
    | failed outcome hdue => exact hp.fire rfl hdue hread hclock rfl
  | abort w d =>
    rw [List.append_nil]
    exact hp.quiet hclock fun _ h ↦ nomatch h
  | outside w w' loop hstore =>
    rw [List.append_nil]
    exact hp.quiet hclock fun d' hd' ↦ ⟨d', hd', rfl⟩
  | terminated w loop workflow reason =>
    rw [List.append_nil]
    exact hp.quiet hclock fun d' hd' ↦ ⟨d', hd', rfl⟩
  | closed w loop run status reason =>
    rw [List.append_nil]
    exact hp.quiet hclock fun d' hd' ↦ ⟨d', hd', rfl⟩
  | cancelled w workflow input hround =>
    rw [List.append_nil]
    exact hp.quiet hclock fun _ h ↦ nomatch h

/-- Every journal is paced. -/
theorem Journal.paced {sc : Scene σ} {notes : List TimerNote}
    (h : Journal p limits readable sc notes) : Paced readable sc notes := by
  induction h with
  | start w hw hlimits hread => exact Paced.start w
  | step hj hstep hlimits hclock hread ih => exact ih.step hstep hj.clock_readable hclock

/-- A step that notes nothing leaves the live loop's deadline where it was: signals, queries,
continuations and whatever the rest of the process does never move it. -/
theorem NotedStep.keeps_deadline {sc sc' : Scene σ} {new : List TimerNote}
    (hstep : NotedStep p sc sc' new) (hnew : new = []) {d d' : Driving σ} (hd : sc.loop = some d)
    (hd' : sc'.loop = some d') : d'.live.nextTick = d.live.nextTick := by
  cases hstep with
  | begin w workflow input hround => exact nomatch hd
  | poll w d₀ cancelled =>
    cases hd
    have hmove := d.poll_moves (p := p) cancelled w
    generalize d.pollNotes p cancelled w = new at hmove hnew
    generalize (d.poll p cancelled).run w = r at hmove hd'
    obtain ⟨progress, w'⟩ := r
    cases hmove with
    | idle hkeep => exact hkeep d' (Scene.loop_after hd')
    | rearmed i hdue harmed => exact nomatch hnew
    | failed outcome hdue => exact nomatch hnew
  | abort w d₀ => exact nomatch hd'
  | outside w w' loop hstore => exact (Option.some.inj (hd'.symm.trans hd)) ▸ rfl
  | terminated w loop workflow reason => exact (Option.some.inj (hd'.symm.trans hd)) ▸ rfl
  | closed w loop run status reason => exact (Option.some.inj (hd'.symm.trans hd)) ▸ rfl
  | cancelled w workflow input hround => exact nomatch hd

namespace Paced

variable {sc : Scene σ} {notes : List TimerNote}

/-- Every tick comes right after an arming, at or after its deadline. -/
theorem fired_after_armed (hp : Paced readable sc notes) {pre post : List TimerNote} {t : Instant}
    (h : notes = pre ++ .fired t :: post) :
    ∃ pre' a i, pre = pre' ++ [.armed a i] ∧ tickAfter a i ≤ t := by
  rcases List.eq_nil_or_concat pre with rfl | ⟨pre', x, rfl⟩
  · exact absurd (by rw [h]; rfl) (hp.first t)
  have hchain := hp.chain
  rw [h, List.concat_eq_append, List.append_assoc, List.singleton_append] at hchain
  -- the note before the tick paces it, so it is an arming whose deadline has passed
  have hx := TimerNote.paces_of_chain hchain
  cases x with
  | armed a i => exact ⟨pre', a, i, List.concat_eq_append, hx.2⟩
  | fired t' => exact hx.elim

/-- On a clock that never reads a leap second, a tick is at least the interval of the arming
before it after any earlier tick, unless it is at the end of time. -/
theorem spaced (hp : Paced Instant.Leapless sc notes) {pre mid post : List TimerNote}
    {t₁ a t₂ : Instant} {i : Span}
    (h : notes = pre ++ .fired t₁ :: mid ++ .armed a i :: .fired t₂ :: post) :
    i ≤ t₂.elapsedSince t₁ ∨ Instant.max ≤ t₂ := by
  have hchain := hp.chain
  rw [h] at hchain
  have hdue := (TimerNote.paces_of_chain hchain).2
  rw [List.append_assoc] at hchain
  have hle : t₁ ≤ a := TimerNote.at_le_of_chain (List.isChain_append.mp hchain).2.1
  have hleap : ∀ n ∈ [TimerNote.fired t₁, .armed a i, .fired t₂], n.at_.Leapless := by
    intro n hn
    refine (hp.read n ?_).1
    rw [h]
    simp only [List.mem_cons, List.not_mem_nil, or_false] at hn
    rcases hn with rfl | rfl | rfl <;> simp
  exact spaced_of_armed (hleap (.fired t₁) (by simp)) (hleap (.armed a i) (by simp))
    (hleap (.fired t₂) (by simp)) hle hdue

end Paced

/-- The pace of the timer along every execution on a clock that never reads a leap second. Every
execution has a journal of its timer notes, a step that notes nothing leaves the live loop's
deadline where it was, and along every journal: the live loop's deadline is one interval after the
last note, an arming; every tick comes right after an arming, at or after its deadline; and any
two ticks are at least the interval of the later one's arming apart, so that with a positive
interval the later one is the later reading, unless it is at the end of time. -/
theorem ticks_paced :
    (∀ sc, Timely p limits Instant.Leapless sc →
      ∃ notes, Journal p limits Instant.Leapless sc notes) ∧
    (∀ sc sc' new, NotedStep p sc sc' new → new = [] →
      ∀ d d', sc.loop = some d → sc'.loop = some d' → d'.live.nextTick = d.live.nextTick) ∧
    ∀ sc notes, Journal p limits Instant.Leapless sc notes →
      (∀ d, sc.loop = some d → ∃ a i, notes.getLast? = some (.armed a i) ∧
        d.live.nextTick = tickAfter a i) ∧
      (∀ pre t post, notes = pre ++ .fired t :: post →
        ∃ pre' a i, pre = pre' ++ [.armed a i] ∧ tickAfter a i ≤ t) ∧
      (∀ pre t₁ mid a i t₂ post, notes = pre ++ .fired t₁ :: mid ++ .armed a i :: .fired t₂ :: post →
        (i ≤ t₂.elapsedSince t₁ ∨ Instant.max ≤ t₂) ∧
        (0 < i.nanos → t₁ < t₂ ∨ Instant.max ≤ t₂)) := by
  refine ⟨fun sc h ↦ h.journal, fun sc sc' new hstep hnew d d' hd hd' ↦
    hstep.keeps_deadline hnew hd hd', fun sc notes hj ↦ ?_⟩
  have hp := hj.paced
  refine ⟨hp.armed, fun pre t post h ↦ hp.fired_after_armed h, fun pre t₁ mid a i t₂ post h ↦ ?_⟩
  have hspaced := hp.spaced h
  refine ⟨hspaced, fun hi ↦ hspaced.imp (lt_of_spaced ?_ ?_ hi) id⟩
  · exact (hp.read (.fired t₁) (by rw [h]; simp)).1
  · exact (hp.read (.fired t₂) (by rw [h]; simp)).1

/-- The coordinator's half-minute ticks. Begun at noon on the first of March 2026, its loop wakes
at half past twelve and at one minute past, logs a tick each time and arms the timer again; the
second tick is half a minute after the first. -/
theorem coordinator_ticks_on_schedule :
    ∃ sc, Journal Pool.coordinator Limits.default Instant.Leapless sc
        [.armed ⟨1772366400, 0⟩ (Span.ofSeconds 30), .fired ⟨1772366430, 0⟩,
          .armed ⟨1772366430, 0⟩ (Span.ofSeconds 30), .fired ⟨1772366460, 0⟩,
          .armed ⟨1772366460, 0⟩ (Span.ofSeconds 30)] ∧
      (Span.ofSeconds 30 ≤ Instant.elapsedSince ⟨1772366460, 0⟩ ⟨1772366430, 0⟩ ∨
        Instant.max ≤ ⟨1772366460, 0⟩) := by
  have j₀ : Journal Pool.coordinator Limits.default Instant.Leapless
      ⟨World.fresh ⟨1772366400, 0⟩ Limits.default, none⟩ [] := .start _ rfl rfl rfl
  have hbegin : NotedStep Pool.coordinator ⟨World.fresh ⟨1772366400, 0⟩ Limits.default, none⟩ _ _ :=
    .begin _ Pool.coordinatorId _ Pool.restore_encode_default
  have j₁ := j₀.step hbegin (by rfl) (by exact Instant.le_refl _)
    (by exact (rfl : Instant.inLeapSecond ⟨1772366400, 0⟩ = false))
  have j₂ := j₁.outside (World.atInstant · ⟨1772366430, 0⟩) (by rfl) (by rfl) (by decide)
    (by exact (rfl : Instant.inLeapSecond ⟨1772366430, 0⟩ = false))
  have j₃ := j₂.step (.poll _ _ false) (by rfl) (by exact Instant.le_refl _)
    (by exact (rfl : Instant.inLeapSecond ⟨1772366430, 0⟩ = false))
  have j₄ := j₃.outside (World.atInstant · ⟨1772366460, 0⟩) (by rfl) (by rfl) (by decide)
    (by exact (rfl : Instant.inLeapSecond ⟨1772366460, 0⟩ = false))
  have j₅ := j₄.step (.poll _ _ false) (by rfl) (by exact Instant.le_refl _)
    (by exact (rfl : Instant.inLeapSecond ⟨1772366460, 0⟩ = false))
  exact ⟨_, j₅, ((ticks_paced.2.2 _ _ j₅).2.2 [.armed ⟨1772366400, 0⟩ (Span.ofSeconds 30)] _ [] _ _
    _ [.armed ⟨1772366460, 0⟩ (Span.ofSeconds 30)] rfl).1⟩

/-- On a clock that reads a leap second, two ticks can come less than the interval apart. Begun at
noon on the first of March 2026, the coordinator's loop logs a tick at 12:00:59.5 and is aborted;
the loop that recovers the run three tenths of a second into the leap second that ends the minute
arms its timer there, with a deadline at 12:01:29.3, where it logs the next tick, 29.8 seconds
after the first. -/
theorem leap_second_recovery_ticks_early :
    ∃ sc pre t₁ mid a i t₂ post, Journal Pool.coordinator Limits.default (fun _ ↦ True) sc
        (pre ++ .fired t₁ :: mid ++ .armed a i :: .fired t₂ :: post) ∧
      a.inLeapSecond = true ∧ ¬ (i ≤ t₂.elapsedSince t₁ ∨ Instant.max ≤ t₂) := by
  have j₀ : Journal Pool.coordinator Limits.default (fun _ ↦ True)
      ⟨World.fresh ⟨1772366400, 0⟩ Limits.default, none⟩ [] := .start _ rfl rfl trivial
  -- the first loop begins at noon and ticks half a second before the end of the minute
  have j₁ := j₀.step (.begin _ Pool.coordinatorId _ Pool.restore_encode_default) (by rfl)
    (by exact Instant.le_refl _) trivial
  have j₂ := j₁.outside (World.atInstant · ⟨1772366459, 500000000⟩) (by rfl) (by rfl) (by decide)
    trivial
  have j₃ := j₂.step (.poll _ _ false) (by rfl) (by exact Instant.le_refl _) trivial
  -- it is aborted, and a second loop recovers the run inside the leap second
  have j₄ := j₃.step (.abort _ _) (by rfl) (by exact Instant.le_refl _) trivial
  have j₅ := j₄.outside (World.atInstant · ⟨1772366459, 1300000000⟩) (by rfl) (by rfl) (by decide)
    trivial
  have j₆ := j₅.step (.begin _ Pool.coordinatorId _ Pool.restore_encode_default) (by rfl)
    (by exact Instant.le_refl _) trivial
  have j₇ := j₆.outside (World.atInstant · ⟨1772366489, 300000000⟩) (by rfl) (by rfl) (by decide)
    trivial
  have j₈ := j₇.step (.poll _ _ false) (by rfl) (by exact Instant.le_refl _) trivial
  exact ⟨_, [.armed ⟨1772366400, 0⟩ (Span.ofSeconds 30)], ⟨1772366459, 500000000⟩,
    [.armed ⟨1772366459, 500000000⟩ (Span.ofSeconds 30)], ⟨1772366459, 1300000000⟩,
    Span.ofSeconds 30, ⟨1772366489, 300000000⟩,
    [.armed ⟨1772366489, 300000000⟩ (Span.ofSeconds 30)], j₈, by decide, by decide⟩

end Engine

end SlotKeeper
