import SlotKeeper.Proofs.Engine.Addressing
import SlotKeeper.Proofs.Engine.Frame

/-!
# What a run loop does to the bus

Between its own calls on the bus (registering its mailbox, taking from it, answering a query,
dropping it), a run loop reaches the bus only to deliver the signals of its actions. Delivering
signals lets the bus grow (`Bus.Grows`): it stays wired, every identity stays with the mailbox of
the same generation, and every mailbox keeps what it holds at its front. Store calls leave the
bus alone, so growing is a relation the executor's effects keep (`Bus.Grows.effects`), and every
function of the executor lets the bus grow by its lemma of the frame module.

For the loop this gives `Driving.poll_sent`: a wake-up that is not a cancellation leaves the loop
waiting on its mailbox, with the bus grown from what the take left, or ends it with its mailbox
dropped from such a bus; a cancellation always ends it. A loop woken by a signal thus ends with
its mailbox dropped, or waits with the signal logged (`Driving.poll_signal`). A loop that begins
registers a mailbox of the next generation and waits on it, or drops it again
(`Driving.begin_sent`).
-/

namespace SlotKeeper.Engine

open Json Workflow Store

namespace Bus

/-- `b'` is `b` after signals were sent: still wired, every identity held by the mailbox of the
same generation, and every mailbox holding what it held, with perhaps more behind it. -/
structure Grows (b b' : Bus) : Prop where
  wired : Wired b → Wired b'
  owner : ∀ identity, (b'.owner? identity).map (·.generation) = (b.owner? identity).map (·.generation)
  queued : Wired b → ∀ g, b.queued g <+: b'.queued g

namespace Grows

variable {b b' b'' : Bus}

theorem refl (b : Bus) : Grows b b := ⟨id, fun _ ↦ rfl, fun _ g ↦ List.prefix_refl (b.queued g)⟩

theorem trans (h : Grows b b') (h' : Grows b' b'') : Grows b b'' where
  wired hw := h'.wired (h.wired hw)
  owner identity := (h'.owner identity).trans (h.owner identity)
  queued hw g := (h.queued hw g).trans (h'.queued (h.wired hw) g)

/-- A signal, accepted or refused, lets the bus grow. -/
theorem signal (b : Bus) (identity : String) (s : Signal) : Grows b (b.signal identity s).1 where
  wired hw := hw.apply (.signal identity s)
  owner := owner?_apply_of_not_registers (.signal identity s) (fun _ h ↦ by cases h)
    (fun _ h ↦ by cases h)
  queued hw g := by
    rw [queued_signal hw]
    exact List.prefix_append _ _

/-- Recording an answer leaves the mailboxes alone. -/
theorem answer (b : Bus) (ticket : Nat) (r : Except QueryError Json) : Grows b (b.answer ticket r) :=
  ⟨fun hw ↦ ⟨hw.below, hw.distinct, hw.single⟩, fun _ ↦ rfl, fun _ g ↦ List.prefix_refl (b.queued g)⟩

/-- A mailbox of a bus that grew from a wired one holds at least what it held. -/
theorem queued_eq (h : Grows b b') (hw : Wired b) (g : Nat) : ∃ more, b'.queued g = b.queued g ++ more := by
  obtain ⟨more, hmore⟩ := h.queued hw g
  exact ⟨more, hmore.symm⟩

end Grows

end Bus

/-- A store call, failed or not, leaves the bus alone. -/
theorem Bus.Grows.guarded {α : Type} (op : Operation)
    (call : Memory → Except StoreError α × Memory) (spoilt : α → α) : Stays (fun w w' ↦ Bus.Grows w.bus w'.bus) (World.guarded op call spoilt) := by
  intro w
  simp only [World.guarded, StateT.run_modifyGet]
  cases (w.faults.consult op).2 <;> exact .refl w.bus

/-- Every effect of the executor lets the bus grow, whatever status it closes a run with. -/
theorem Bus.Grows.effects : Effects (fun w w' ↦ Bus.Grows w.bus w'.bus) fun _ ↦ True where
  refl w := .refl w.bus
  trans h₁ h₂ := h₁.trans h₂
  deliver target signal w := .signal w.bus target signal
  currentRun _ := Bus.Grows.guarded _ _ _
  loadEvents _ := Bus.Grows.guarded _ _ _
  startRun _ _ _ _ := Bus.Grows.guarded _ _ _
  appendEvents _ _ _ := Bus.Grows.guarded _ _ _
  continueAsNew _ _ _ := Bus.Grows.guarded _ _ _
  closeRun _ _ _ _ := Bus.Grows.guarded _ _ _

/-! ### The run loop -/

namespace Driving

variable {ι σ : Type} {p : Program ι σ}

/-- A step of a loop that started from bus `b₀`: it waits again on the same mailbox, with the bus
grown from `b₀`; or it has ended, dropping its mailbox from a bus grown from `b₀`. -/
def Sent (d : Driving σ) (b₀ : Bus) (step : Progress σ × World) : Prop :=
  (∃ d', step.1 = .waiting d' ∧ d'.workflow = d.workflow ∧ d'.mailbox = d.mailbox ∧
      Bus.Grows b₀ step.2.bus) ∨
    ∃ o b, step.1 = .finished o ∧ Bus.Grows b₀ b ∧ step.2.bus = b.release d.mailbox

theorem Sent.trans {d : Driving σ} {b₀ b₁ : Bus} {step : Progress σ × World} (h₀ : Bus.Grows b₀ b₁)
    (h : d.Sent b₁ step) : d.Sent b₀ step := by
  rcases h with ⟨d', hw, hwf, hmb, hg⟩ | ⟨o, b, hf, hg, hbus⟩
  · exact .inl ⟨d', hw, hwf, hmb, h₀.trans hg⟩
  · exact .inr ⟨o, b, hf, h₀.trans hg, hbus⟩

theorem stop_sent (d : Driving σ) (o : Except ExecutorError Unit) (w : World) :
    d.Sent w.bus ((d.stop o).run w) :=
  .inr ⟨o, w.bus, rfl, .refl w.bus, rfl⟩

theorem rest_sent (d : Driving σ) (w : World) : d.Sent w.bus ((rest p d).run w) := by
  unfold rest
  simp only [StateT.run_bind, StateT.run_get, pure_bind]
  have hsettle : Bus.Grows w.bus _ := settle_stays p Bus.Grows.effects w.limits d.live w
  generalize ((settle p w.limits d.live : ExceptT ExecutorError WorldM _).run.run w) = settled
    at hsettle
  obtain ⟨e | live, w'⟩ := settled
  · exact Sent.trans hsettle (stop_sent d _ w')
  · exact .inl ⟨{ d with live }, rfl, rfl, rfl, hsettle⟩

theorem react_sent (d : Driving σ) (wake : Wakeup) (w : World) :
    d.Sent w.bus ((poll.react p d wake).run w) := by
  unfold poll.react
  simp only [StateT.run_bind]
  have hhandle : Bus.Grows w.bus _ :=
    handle_stays p Bus.Grows.effects trivial d.workflow d.live wake w
  generalize ((handle p d.workflow d.live wake : ExceptT ExecutorError WorldM _).run.run w) =
    handled at hhandle
  obtain ⟨e | _ | live, w'⟩ := handled
  · exact Sent.trans hhandle (stop_sent d _ w')
  · exact Sent.trans hhandle (stop_sent d _ w')
  · exact Sent.trans hhandle (rest_sent (p := p) { d with live } w')

/-- A cancellation ends the loop, dropping its mailbox from a bus that only grew. -/
theorem poll_cancelled_sent (d : Driving σ) (w : World) :
    ∃ o b, ((d.poll p true).run w).1 = .finished o ∧ Bus.Grows w.bus b ∧
      ((d.poll p true).run w).2.bus = b.release d.mailbox := by
  unfold poll
  rw [if_pos rfl]
  simp only [StateT.run_bind]
  have hhandle : Bus.Grows w.bus _ :=
    handle_stays p Bus.Grows.effects trivial d.workflow d.live .cancelled w
  generalize ((handle p d.workflow d.live .cancelled : ExceptT ExecutorError WorldM _).run.run w) =
    handled at hhandle
  obtain ⟨e | _, w'⟩ := handled
  · exact ⟨_, w'.bus, rfl, hhandle, rfl⟩
  · exact ⟨_, w'.bus, rfl, hhandle, rfl⟩

/-- Any other wake-up starts by taking from the mailbox, and from what the take left the loop
waits again on its mailbox with the bus grown, or ends and drops its mailbox. -/
theorem poll_sent (d : Driving σ) (w : World) :
    d.Sent (w.bus.next d.mailbox).1 ((d.poll p false).run w) := by
  unfold poll
  rw [if_neg Bool.false_ne_true]
  simp only [StateT.run_bind, World.onBus_run]
  generalize (w.bus.next d.mailbox).2 = item
  rcases item with _ | (q | s | _)
  · -- nothing in the mailbox: the timer, if due
    show d.Sent _ ((if d.live.nextTick ≤ w.clock.now then poll.react p d .timer
      else pure (.waiting d)).run { w with bus := (w.bus.next d.mailbox).1 })
    split
    · exact react_sent d .timer _
    · exact .inl ⟨d, rfl, rfl, rfl, .refl _⟩
  · exact .inl ⟨d, rfl, rfl, rfl, .answer _ _ _⟩
  · exact react_sent d (.signal s) _
  · exact stop_sent d _ _

/-- A loop woken by a signal either ends, dropping its mailbox with whatever it still holds, or
waits again on the same mailbox with the signal logged as its run's next input, the run kept or
continued as new from a snapshot of the state the signal led to. -/
theorem poll_signal {d : Driving σ} {w : World} {s : Signal}
    (h : (w.bus.next d.mailbox).2 = some (.signal s)) :
    (∀ o, ((d.poll p false).run w).1 = .finished o →
      ((d.poll p false).run w).2.bus.box? d.mailbox = none) ∧
    (∀ d', ((d.poll p false).run w).1 = .waiting d' →
      d'.workflow = d.workflow ∧ d'.mailbox = d.mailbox ∧
      ∃ now s₁ actions, p.apply d.live.state (.signalled s now) = .ok (s₁, actions) ∧
        ((d'.live.run = d.live.run ∧ d'.live.state = s₁ ∧
            Appended w.store ((d.poll p false).run w).2.store d.live.run.run (.signalled s now)) ∨
          d'.live.run.input = p.encode (p.snapshot s₁))) := by
  refine ⟨fun o ho ↦ ?_, fun d' hd' ↦ ?_⟩
  · rcases poll_sent (p := p) d w with ⟨d', hw, -⟩ | ⟨o', b, -, -, hbus⟩
    · rw [hw] at ho
      cases ho
    · rw [hbus]
      exact Bus.box?_release_self b d.mailbox
  · rw [poll_of_signal h] at hd' ⊢
    exact react_signal_logs d s w.store { w with bus := (w.bus.next d.mailbox).1 } rfl d' hd'

/-- A loop that begins registers a mailbox of the next generation under its workflow, and waits
on it with the bus grown from the registration, or drops it again. -/
theorem begin_sent (workflow : String) (input : ι) (w : World) :
    (∃ d, ((begin p workflow input).run w).1 = .waiting d ∧ d.workflow = workflow ∧
        d.mailbox = w.bus.generations ∧
        Bus.Grows (w.bus.register workflow).1 ((begin p workflow input).run w).2.bus) ∨
      ∃ o b, ((begin p workflow input).run w).1 = .finished o ∧
        Bus.Grows (w.bus.register workflow).1 b ∧
        ((begin p workflow input).run w).2.bus = b.release w.bus.generations := by
  unfold begin
  rw [World.onBus_bind_run]
  simp only [StateT.run_bind]
  have hstart : Bus.Grows (w.bus.register workflow).1 _ := recoverOrStart_stays p Bus.Grows.effects
    workflow input { w with bus := (w.bus.register workflow).1 }
  generalize ((recoverOrStart p workflow input : ExceptT ExecutorError WorldM _).run.run
    { w with bus := (w.bus.register workflow).1 }) = started at hstart
  obtain ⟨e | live, w'⟩ := started
  · exact .inr ⟨_, w'.bus, rfl, hstart, rfl⟩
  · -- the loop settles its run on the mailbox it registered
    rcases rest_sent (p := p) ⟨workflow, (w.bus.register workflow).2, live⟩ w' with
      ⟨d', hw, hwf, hmb, hg⟩ | ⟨o, b, hf, hg, hbus⟩
    · exact .inl ⟨d', hw, hwf, hmb, hstart.trans hg⟩
    · exact .inr ⟨o, b, hf, hstart.trans hg, hbus⟩

end Driving

end SlotKeeper.Engine
