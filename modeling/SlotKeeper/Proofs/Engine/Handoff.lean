import SlotKeeper.Proofs.Engine.Specs
import SlotKeeper.Proofs.Engine.Mailbox

/-!
# What becomes of a signal

A signal goes from its sender to the bus, from the bus to a mailbox, and from the mailbox into the
log of the run that the mailbox's owner drives.

* The bus accepts a signal only for an identity that a mailbox holds, and appends it to that
  mailbox behind the signals already there (`Bus.signal_ok`).
* A mailbox hands its signals out in that order, once its queries are answered
  (`Bus.next_signal`).
* A loop woken by a signal that keeps waiting appends it to its run's log as the run's next
  input, with at most the marker of the actions it asked for after it, and waits on the same
  mailbox, its run possibly continued as new from a snapshot of the state the signal led to
  (`Driving.react_signal_logs`). That the loop otherwise ends with its mailbox dropped is said,
  with the rest of what a wake-up does to the bus, in the module on sending.
-/

namespace SlotKeeper.Engine

open Json Workflow Store

variable {ι σ : Type} {p : Program ι σ}

namespace Bus

/-- The queries of a dropped mailbox are answered without touching the mailboxes. -/
theorem boxes_foldl_answer (qs : List Query) (identity : String) (b : Bus) :
    (qs.foldl (fun b q ↦ b.answer q.ticket (.error (.dropped identity))) b).boxes = b.boxes := by
  induction qs generalizing b with
  | nil => rfl
  | cons q qs ih => exact ih _

/-- A dropped mailbox is gone. -/
@[simp] theorem box?_release_self (b : Bus) (g : Nat) : (b.release g).box? g = none := by
  unfold release
  cases hbox : b.box? g with
  | none => exact hbox
  | some m =>
    dsimp only
    unfold box?
    rw [boxes_foldl_answer, List.find?_eq_none]
    intro m' hm'
    simp only [List.mem_filter, bne_iff_ne, ne_eq] at hm'
    simpa using hm'.2

/-- The bus accepts a signal only for an identity that a mailbox holds, and appends it to the
signals of that mailbox. -/
theorem signal_ok {b : Bus} {identity : String} {s : Signal} (h : (b.signal identity s).2 = .ok ()) :
    ∃ m, b.owner? identity = some m ∧
      (b.signal identity s).1 = b.modifyBox m.generation fun m ↦ { m with signals := m.signals ++ [s] } := by
  unfold signal at h ⊢
  cases hown : b.owner? identity with
  | none => rw [hown] at h; cases h
  | some m => exact ⟨m, rfl, rfl⟩

/-- A mailbox hands out a signal only when it holds no query and the signal is its first. -/
theorem next_signal {b : Bus} {g : Nat} {s : Signal} (h : (b.next g).2 = some (.signal s)) :
    ∃ m rest, b.box? g = some m ∧ m.queries = [] ∧ m.signals = s :: rest ∧
      (b.next g).1 = b.modifyBox g fun m ↦ { m with signals := rest } := by
  rcases next_cases b g with ⟨-, hnext⟩ | ⟨m, q, qs, -, -, hnext⟩ |
      ⟨m, s', ss, hbox, hq, hs, hnext⟩ | ⟨m, -, -, -, hnext⟩ <;> rw [hnext] at h ⊢
  · cases h
  · cases h
  · cases h
    exact ⟨m, ss, hbox, hq, hs, rfl⟩
  · split at h <;> cases h

end Bus

/-! ## The store under one wake-up -/

/-- The log of run `id` in `m` is its log in `m₀` with the input `e` appended, followed at most by
the marker of the actions `e` asked for. -/
def Appended (m₀ m : Memory) (id : Uuid) (e : Event) : Prop :=
  ∃ r₀ r, m₀.find? id = some r₀ ∧ m.find? id = some r ∧
    (r.events = r₀.events ++ [e] ∨ ∃ n, r.events = r₀.events ++ [e, .delivered n])

/-- Processing an input that succeeds appended it to the run's log, with at most the marker of
its actions after it, and moved the live run to the state the input leads to. -/
theorem process_appends (live : Live σ) (e : Event) (m₀ : Memory) :
    Triple (· = m₀) (process p live e).run fun r m ↦ ∀ live', r = .ok live' →
      live'.run = live.run ∧ (∃ actions, p.apply live.state e = .ok (live'.state, actions)) ∧
      Appended m₀ m live.run.run e := by
  unfold process
  refine Triple.ebind (M := fun _ m ↦ ∃ r₀, m₀.find? live.run.run = some r₀ ∧
      m.find? live.run.run = some { r₀ with events := r₀.events ++ [e] })
    (Triple.appendEvents _ _ _ (fun _ _ _ _ h ↦ nomatch h) ?_) fun sequence ↦ ?_
  · rintro m r n rfl hfind -
    exact ⟨r, hfind, by rw [Memory.find?_put, if_pos rfl]⟩
  cases happly : p.apply live.state e with
  | error fault =>
    exact (Triple.ethrow _).mono (fun _ _ _ h ↦ nomatch h) fun _ _ h ↦ h
  | ok result =>
    obtain ⟨state, actions⟩ := result
    dsimp only
    simp only [pure_bind]
    by_cases hempty : actions.isEmpty = true
    · rw [if_pos hempty]
      refine (Triple.epure _).mono ?_ fun _ _ h ↦ h
      rintro m ⟨r₀, hfind₀, hfind⟩ live' hlive
      cases hlive
      exact ⟨rfl, ⟨actions, rfl⟩, r₀, _, hfind₀, hfind, .inl rfl⟩
    · rw [if_neg hempty]
      unfold deliver
      refine Triple.ebind (M := fun _ m ↦ ∃ r₀, m₀.find? live.run.run = some r₀ ∧
          m.find? live.run.run = some { r₀ with events := r₀.events ++ [e] })
        ((sendAll_spec _ false actions 0).mono (fun _ h ↦ h) ?_) fun count ↦ ?_
      · rintro (_ | _) m ⟨hm, -⟩
        · exact fun _ h ↦ nomatch h
        · exact hm
      refine Triple.ebind (M := fun _ m ↦ ∃ r₀, m₀.find? live.run.run = some r₀ ∧
          m.find? live.run.run = some { r₀ with events := r₀.events ++ [e, .delivered count] })
        (Triple.appendEvents _ _ _ (fun _ _ _ _ h ↦ nomatch h) ?_) fun sequence ↦ ?_
      · rintro m r n ⟨r₀, hfind₀, hfind⟩ hfind' -
        rw [hfind] at hfind'
        cases hfind'
        refine ⟨r₀, hfind₀, ?_⟩
        rw [Memory.find?_put, if_pos rfl, List.append_assoc]
        rfl
      refine (Triple.epure _).mono ?_ fun _ _ h ↦ h
      rintro m ⟨r₀, hfind₀, hfind⟩ live' hlive
      cases hlive
      exact ⟨rfl, ⟨actions, rfl⟩, r₀, _, hfind₀, hfind, .inr ⟨count, rfl⟩⟩

/-- A wake-up on a signal that succeeds appended the signal to the run's log as its next input,
stamped with the time of the wake-up. -/
theorem handle_signal_appends (workflow : String) (live : Live σ) (s : Signal) (m₀ : Memory) :
    Triple (· = m₀) (handle p workflow live (.signal s)).run fun r m ↦ ∀ live',
      r = .ok (some live') → ∃ now, live'.run = live.run ∧
        (∃ actions, p.apply live.state (.signalled s now) = .ok (live'.state, actions)) ∧
        Appended m₀ m live.run.run (.signalled s now) := by
  refine Triple.after_now fun now ↦ ?_
  refine Triple.ebind_of (process_appends live (.signalled s now) m₀)
    (fun _ _ _ _ h ↦ nomatch h) fun live₁ ↦ (Triple.epure _).mono ?_ fun _ _ h ↦ h
  intro m h live' hlive
  cases hlive
  exact ⟨now, h live₁ rfl⟩

/-- Settling keeps the live run and the store, or continues the run as new from a snapshot of its
state. -/
theorem settle_keeps_or_continues (limits : Limits) (live : Live σ) (m₁ : Memory) :
    Triple (· = m₁) (settle p limits live).run fun r m ↦ ∀ live', r = .ok live' →
      (live' = live ∧ m = m₁) ∨ live'.run.input = p.encode (p.snapshot live.state) := by
  unfold settle
  refine Triple.after_now fun now ↦ ?_
  by_cases hdue : dueForContinuation limits now live = true
  · rw [if_pos hdue]
    unfold continueAsNew
    refine Triple.after_now fun now' ↦ ?_
    -- the successor's input is the snapshot, whatever state it restores to
    refine Triple.ebind (M := fun successor _ ↦ successor.input = p.encode (p.snapshot live.state))
      (Triple.continueAsNew _ _ _ (fun _ _ _ _ h ↦ nomatch h) fun _ _ _ _ _ ↦ rfl)
      fun successor ↦ ?_
    refine Triple.ebind (M := fun _ _ ↦ successor.input = p.encode (p.snapshot live.state))
      (Triple.restored p _ (fun _ _ _ h ↦ h) fun _ _ _ _ h ↦ nomatch h) fun s₀ ↦ ?_
    refine (Triple.epure _).mono ?_ fun _ _ h ↦ h
    intro m h live' hlive
    cases hlive
    exact .inr h
  · rw [if_neg hdue]
    refine (Triple.epure _).mono ?_ fun _ _ h ↦ h
    intro m hm live' hlive
    cases hlive
    exact .inl ⟨rfl, hm⟩

/-! ## The loop under one wake-up -/

namespace Driving

theorem stop_run (d : Driving σ) (o : Except ExecutorError Unit) (w : World) :
    (d.stop o).run w = (.finished o, { w with bus := w.bus.release d.mailbox }) :=
  rfl

/-- Settling a waiting loop keeps its live run and the store, or continues the run as new from a
snapshot of its state. -/
theorem rest_keeps_or_continues (d : Driving σ) (m₁ : Memory) :
    Triple (· = m₁) (rest p d) fun progress m ↦ ∀ d', progress = .waiting d' →
      d'.workflow = d.workflow ∧ d'.mailbox = d.mailbox ∧
      ((d'.live = d.live ∧ m = m₁) ∨ d'.live.run.input = p.encode (p.snapshot d.live.state)) := by
  unfold rest
  refine Triple.bind (Triple.read.mono (fun _ h _ _ ↦ h) fun _ _ h ↦ h) fun w ↦ ?_
  refine Triple.bind (settle_keeps_or_continues w.limits d.live m₁) ?_
  rintro (e | live)
  · exact fun w' _ ↦ by rw [stop_run]; exact fun _ h ↦ nomatch h
  · refine (Triple.pure _).mono ?_ fun _ _ h ↦ h
    intro m h d' hd'
    cases hd'
    exact ⟨rfl, rfl, h live rfl⟩

/-- A wake-up on a signal that keeps the loop waiting logged the signal as the run's next input
and moved to the state it leads to; the run was kept, or continued as new from a snapshot of
that state. -/
theorem react_signal_logs (d : Driving σ) (s : Signal) (m₀ : Memory) :
    Triple (· = m₀) (poll.react p d (.signal s)) fun progress m ↦ ∀ d', progress = .waiting d' →
      d'.workflow = d.workflow ∧ d'.mailbox = d.mailbox ∧
      ∃ now s₁ actions, p.apply d.live.state (.signalled s now) = .ok (s₁, actions) ∧
        ((d'.live.run = d.live.run ∧ d'.live.state = s₁ ∧
            Appended m₀ m d.live.run.run (.signalled s now)) ∨
          d'.live.run.input = p.encode (p.snapshot s₁)) := by
  unfold poll.react
  refine Triple.bind (handle_signal_appends d.workflow d.live s m₀) ?_
  rintro (e | _ | live)
  · exact fun w' _ ↦ by rw [stop_run]; exact fun _ h ↦ nomatch h
  · exact fun w' _ ↦ by rw [stop_run]; exact fun _ h ↦ nomatch h
  · intro w hw d' hd'
    obtain ⟨now, hrun, ⟨actions, happly⟩, happended⟩ := hw live rfl
    obtain ⟨hworkflow, hmailbox, hsettled⟩ :=
      rest_keeps_or_continues (p := p) { d with live } w.store w rfl d' hd'
    refine ⟨hworkflow, hmailbox, now, live.state, actions, happly, ?_⟩
    rcases hsettled with ⟨hlive, hstore⟩ | hinput
    · rw [hlive, hstore]
      exact .inl ⟨hrun, rfl, happended⟩
    · exact .inr hinput

/-- A wake-up of a loop whose mailbox hands out a signal is the handling of that signal. -/
theorem poll_of_signal {d : Driving σ} {w : World} {s : Signal}
    (h : (w.bus.next d.mailbox).2 = some (.signal s)) :
    (d.poll p false).run w =
      (poll.react p d (.signal s)).run { w with bus := (w.bus.next d.mailbox).1 } := by
  unfold poll
  rw [if_neg Bool.false_ne_true]
  simp only [StateT.run_bind, World.onBus_run]
  rw [h]
  rfl

end Driving

end SlotKeeper.Engine
