import SlotKeeper.Proofs.Engine.Custody
import SlotKeeper.Proofs.Pool.Continuation
import SlotKeeper.Proofs.Pool.Recovery

/-!
# Signals to the coordinator

Along every execution of the coordinator's process (`Custody`), every copy of a signal that the
bus accepted for the coordinator was logged by a wake-up of its loop, was dropped with the mailbox
of a loop that ended or was aborted, or is still held by the live loop's mailbox; the bus accepts
one only while a loop is live. A loop that begins, after a failure too, waits on a mailbox of a new
generation, empty when registered; a wake-up that leaves the loop waiting keeps what the mailbox
held less the signal it took; and a wake-up on a signal logs it as the run's next input or ends
the loop. So signals are lost only when a loop ends: the one it took on a failed append or
delivery, and those still queued.

The main statement is `coordinator_signal_lost_only_with_loop`. `accepted_signal_lost_on_failed_append`
is a run of the coordinator in which the one append of a signal fails: the bus accepted the
signal, and afterwards no run logs it and no mailbox holds it.
-/

namespace SlotKeeper.Pool

open Json Workflow Store Engine

/-- No signal accepted for the coordinator is lost while its loop lives. Along every execution,
every copy of an accepted signal was logged, dropped with the mailbox of a loop that ended, or is
held by the live loop's mailbox, and the bus accepts one exactly while a loop is live. A loop that
begins waits on a mailbox of a new generation, empty when registered. A wake-up that leaves the
loop waiting keeps its mailbox, holding what it held less the signal taken. A wake-up on a signal
ends the loop, dropping its mailbox, or logs the signal as the run's next input and waits on the
same mailbox, the run kept or continued as new from a snapshot of the state the signal led to. -/
theorem coordinator_signal_lost_only_with_loop :
    (∀ (sc : Scene Coordinator) (l : Ledger), Custody coordinator coordinatorId sc l →
      l.accepted.Subperm (l.logged ++ l.dropped ++ sc.held) ∧
        ∀ s, (sc.world.bus.signal coordinatorId s).2 = .ok () ↔ sc.loop.isSome) ∧
    (∀ (w : World) (l : Ledger) (input : Seed) (d : Driving Coordinator),
      Custody coordinator coordinatorId ⟨w, none⟩ l →
      ((Driving.begin coordinator coordinatorId input).run w).1 = .waiting d →
      d.mailbox = w.bus.generations ∧ w.bus.box? d.mailbox = none ∧
        (w.bus.register coordinatorId).1.queued d.mailbox = []) ∧
    (∀ (w : World) (l : Ledger) (d d' : Driving Coordinator),
      Custody coordinator coordinatorId ⟨w, some d⟩ l →
      ((d.poll coordinator false).run w).1 = .waiting d' →
      d'.workflow = d.workflow ∧ d'.mailbox = d.mailbox ∧ ∃ rest more,
        w.bus.queued d.mailbox = BusStep.taken d.mailbox w.bus (.take d.mailbox) ++ rest ∧
        ((d.poll coordinator false).run w).2.bus.queued d.mailbox = rest ++ more) ∧
    (∀ (d : Driving Coordinator) (w : World) (s : Signal),
      (w.bus.next d.mailbox).2 = some (.signal s) →
      (∀ o, ((d.poll coordinator false).run w).1 = .finished o →
        ((d.poll coordinator false).run w).2.bus.box? d.mailbox = none) ∧
      (∀ d', ((d.poll coordinator false).run w).1 = .waiting d' →
        d'.workflow = d.workflow ∧ d'.mailbox = d.mailbox ∧
        ∃ now s₁ actions,
          coordinator.apply d.live.state (.signalled s now) = .ok (s₁, actions) ∧
          ((d'.live.run = d.live.run ∧ d'.live.state = s₁ ∧
              Appended w.store ((d.poll coordinator false).run w).2.store d.live.run.run
                (.signalled s now)) ∨
            d'.live.run.input = coordinator.encode (coordinator.snapshot s₁)))) :=
  ⟨fun _ _ h ↦ ⟨h.accounts.balances, h.accepts_iff_live⟩,
    fun _ _ input _ h hd ↦ Driving.begin_fresh h.accounts.wired input hd,
    fun _ _ _ _ h hd ↦ Driving.poll_keeps_rest h.accounts.wired hd,
    fun _ _ _ hnext ↦ Driving.poll_signal hnext⟩

/-- A run of the coordinator's process in custody: the loop begins at noon, the requester of
`marchRequest` takes a mailbox, the bus accepts the request for the coordinator, and the loop
takes it, grants it and goes on waiting. The one accepted signal is the one logged, nothing is
dropped, and the ledger balances. -/
theorem granted_request_logged :
    ∃ sc l, Custody coordinator coordinatorId sc l ∧
      (l.accepted.Subperm (l.logged ++ l.dropped ++ sc.held) ∧
        ∀ s, (sc.world.bus.signal coordinatorId s).2 = .ok () ↔ sc.loop.isSome) ∧
      l.accepted.map (·.kind) = [acquireSignal] ∧ l.logged.map (·.kind) = [acquireSignal] ∧
      l.dropped.isEmpty = true ∧ sc.loop.isSome = true := by
  obtain ⟨d, hd⟩ : ∃ d, marchLoop.1 = .waiting d := ⟨_, rfl⟩
  have hbegun : marchLoop = (.waiting d, marchLoop.2) := by
    rw [← hd]
  have hstart : Custody coordinator coordinatorId ⟨World.fresh ⟨1772366400, 0⟩ Limits.default, none⟩
      .empty := .start _ rfl rfl
  have hloop : Custody coordinator coordinatorId ⟨marchLoop.2, some d⟩ .empty := by
    have h := hstart.begin ⟨Config.default, none⟩ restore_encode_default
    change Custody coordinator coordinatorId (Scene.after marchLoop) .empty at h
    rwa [hbegun] at h
  have henrolled := hloop.party (.register marchRequest.requester)
    (show marchRequest.requester ≠ coordinatorId by decide)
  have hsent := henrolled.accept marchSignal ((henrolled.accepts_iff_live marchSignal).mpr rfl)
  have hwoken := hsent.wake false
  refine ⟨_, _, hwoken, coordinator_signal_lost_only_with_loop.1 _ _ hwoken, ?_⟩
  cases hd
  decide +kernel

/-- The world once the next append is set to fail and the request is sent. -/
def faultedWorld (w : World) : World :=
  { w with faults := w.faults.arm ⟨.appendEvents, 0, 1, false⟩,
           bus := (w.bus.signal coordinatorId marchSignal).1 }

/-- A signal the bus accepted for the coordinator is lost when its append fails: the loop ends
with the store's error and drops its mailbox, no mailbox holds the signal and no run logs it. -/
theorem accepted_signal_lost_on_failed_append :
    ∃ d, marchLoop.1 = .waiting d ∧
      (marchLoop.2.bus.signal coordinatorId marchSignal).2 = .ok () ∧
      Reachable coordinator ⟨((d.poll coordinator false).run (faultedWorld marchLoop.2)).2, none⟩ ∧
      ((d.poll coordinator false).run (faultedWorld marchLoop.2)).1 =
        .finished (.error (.store injected)) ∧
      (∀ m ∈ ((d.poll coordinator false).run (faultedWorld marchLoop.2)).2.bus.boxes,
        marchSignal ∉ m.signals) ∧
      ∀ id r, ((d.poll coordinator false).run (faultedWorld marchLoop.2)).2.store.find? id = some r →
        ∀ at_, Event.signalled marchSignal at_ ∉ r.events := by
  obtain ⟨d, hd⟩ : ∃ d, marchLoop.1 = .waiting d := ⟨_, rfl⟩
  have hbegun : marchLoop = (.waiting d, marchLoop.2) := by
    rw [← hd]
  have hfin : ((d.poll coordinator false).run (faultedWorld marchLoop.2)).1 =
      .finished (.error (.store injected)) := by
    cases hd
    rfl
  have hboxes : ((d.poll coordinator false).run (faultedWorld marchLoop.2)).2.bus.boxes = [] := by
    cases hd
    rfl
  obtain ⟨id₀, info, input, at₀, hruns⟩ : ∃ id info input at_,
      ((d.poll coordinator false).run (faultedWorld marchLoop.2)).2.store.runs =
        [(id, ⟨info, [.started input at_]⟩)] := by
    cases hd
    exact ⟨_, _, _, _, rfl⟩
  have hstep : Step coordinator ⟨faultedWorld marchLoop.2, some d⟩
      ⟨((d.poll coordinator false).run (faultedWorld marchLoop.2)).2, none⟩ := by
    have hended : (d.poll coordinator false).run (faultedWorld marchLoop.2) =
        (.finished (.error (.store injected)),
          ((d.poll coordinator false).run (faultedWorld marchLoop.2)).2) := by
      rw [← hfin]
      rfl
    have h : Step coordinator ⟨faultedWorld marchLoop.2, some d⟩
        (Scene.after ((d.poll coordinator false).run (faultedWorld marchLoop.2))) := .poll _ _ _
    rwa [hended] at h
  have hbegin : Reachable coordinator ⟨marchLoop.2, some d⟩ := by
    have h : Reachable coordinator (Scene.after marchLoop) :=
      .step (.start _ rfl) (.begin _ _ _ restore_encode_default)
    rwa [hbegun] at h
  -- arming the fault and sending the signal leave the store alone
  refine ⟨d, hd, rfl, .step (.step hbegin (.outside _ (faultedWorld marchLoop.2) _ rfl)) hstep,
    hfin, ?_, ?_⟩
  · rw [hboxes]
    exact nofun
  · intro id r hfind at_
    rw [Memory.find?, hruns] at hfind
    by_cases hid : id₀ = id
    · simp only [List.find?_cons, hid, beq_self_eq_true, Option.map_some, Option.some.injEq]
        at hfind
      subst hfind
      simp
    · simp [hid] at hfind

end SlotKeeper.Pool
