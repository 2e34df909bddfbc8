import SlotKeeper.Proofs.Engine.Execution
import SlotKeeper.Proofs.Pool.Continuation

/-!
# The durable coordinator

The coordinator never crashes on a signal, so everything the execution model proves of a total
program holds of it. Two main statements, over every execution from an empty store:

* `loop_state_follows_log`: wherever the live loop waits, its coordinator is the one its current
  run's start input decodes to, after the logged signals and ticks of that run in log order with
  their recorded times; and a loop waiting on the same log, such as one that recovered the run
  after a crash, holds the same coordinator.
* `running_log_shaped`: every running run's log is its start, then signals and ticks each
  followed by at most one delivery marker, as `Program.Logged` says, with no terminal event; so
  replaying it succeeds with the actions of a last input that no marker follows pending, and
  nothing pending after a marker.
-/

namespace SlotKeeper.Pool

open Json Workflow Store Engine

theorem coordinator_total : coordinator.Total := by
  intro c e
  cases e with
  | signalled signal at_ => exact ⟨_, rfl⟩
  | ticked timer at_ => exact ⟨_, rfl⟩
  | _ => exact ⟨_, rfl⟩

/-- The default seed survives its own encoding. -/
theorem restore_encode_default :
    coordinator.restore (coordinator.encode ⟨Config.default, none⟩) =
      .ok (coordinator.new ⟨Config.default, none⟩) :=
  rfl

/-- The live coordinator is what its run's log makes of the decoded start input, and recovery
from the same log rebuilds exactly the same coordinator. -/
theorem loop_state_follows_log {sc : Scene Coordinator} (hsc : Reachable coordinator sc)
    {d : Driving Coordinator} (hd : sc.loop = some d) :
    ∃ r input at_ body seed, sc.world.store.find? d.live.run.run = some r ∧
      r.events = .started input at_ :: body ∧ decode Seed.decoder input = .ok seed ∧
      coordinator.feed (coordinator.new seed) body = .ok d.live.state ∧
      ∀ (sc' : Scene Coordinator) (d' : Driving Coordinator) (r' : StoredRun),
        Reachable coordinator sc' → sc'.loop = some d' →
        sc'.world.store.find? d'.live.run.run = some r' → r'.events = r.events →
        d'.live.state = d.live.state := by
  obtain ⟨r, input, at_, body, s₀, hfind, hevents, hrestore, hfeed⟩ :=
    hsc.live_state coordinator_total hd
  obtain ⟨seed, hdecode, rfl⟩ := Program.restore_eq_ok.mp hrestore
  refine ⟨r, input, at_, body, seed, hfind, hevents, hdecode, hfeed, ?_⟩
  intro sc' d' r' hsc' hd' hfind' hsame
  exact hsc'.state_eq_of_events coordinator_total hsc hd' hd hfind' hfind hsame

/-- The request of `marchRequest`, sent to the coordinator. -/
def marchSignal : Signal := ⟨acquireSignal, marchRequest.toJson, ⟨1772366400, 0⟩⟩

/-- The coordinator's loop begun on an empty store at noon on the first of March 2026. -/
def marchLoop : Progress Coordinator × World :=
  (Driving.begin coordinator coordinatorId ⟨Config.default, none⟩).run
    (World.fresh ⟨1772366400, 0⟩ Limits.default)

/-- The world once the requester of `marchRequest` holds a mailbox and the request is sent. -/
def requestSent (w : World) : World :=
  { w with bus := ((w.bus.register marchRequest.requester).1.signal coordinatorId marchSignal).1 }

/-- What follows in a scene: the requester of `marchRequest` takes a mailbox and sends the
request, the loop takes it, grants it and delivers the grant, and at half a minute past noon its
timer fires. -/
def grantThenTick (sc : Scene Coordinator) : Scene Coordinator :=
  let granted := Scene.wake coordinator false ⟨requestSent sc.world, sc.loop⟩
  Scene.wake coordinator false ⟨{ granted.world with clock := ⟨⟨1772366430, 0⟩⟩ }, granted.loop⟩

theorem reachable_grantThenTick {sc : Scene Coordinator} (h : Reachable coordinator sc) :
    Reachable coordinator (grantThenTick sc) := by
  -- the mailbox, the request and the clock's move leave the store alone
  have hgranted := (h.outside (requestSent sc.world) rfl).wake false
  exact (hgranted.outside _ (by rfl)).wake false

/-- The coordinator's loop begun at noon, once it granted a request and fired its timer. -/
def grantedScene : Scene Coordinator := grantThenTick (Scene.after marchLoop)

theorem grantedScene_reachable : Reachable coordinator grantedScene := by
  have hbegun : Reachable coordinator (Scene.after marchLoop) :=
    .step (.start _ rfl) (.begin _ _ _ restore_encode_default)
  exact reachable_grantThenTick hbegun

/-- The loop that granted a request and fired its timer holds what its start input, the logged
request, the marker of the delivered grant and the logged tick lead to. -/
theorem granted_coordinator_follows_log :
    ∃ d, Reachable coordinator grantedScene ∧ grantedScene.loop = some d ∧
      ∃ r input at_ body seed, grantedScene.world.store.find? d.live.run.run = some r ∧
        r.events.map Event.typeName =
          ["workflow_started", "signal_received", "actions_delivered", "timer_fired"] ∧
        r.events = .started input at_ :: body ∧ decode Seed.decoder input = .ok seed ∧
        coordinator.feed (coordinator.new seed) body = .ok d.live.state ∧
        ∀ (sc' : Scene Coordinator) (d' : Driving Coordinator) (r' : StoredRun),
          Reachable coordinator sc' → sc'.loop = some d' →
          sc'.world.store.find? d'.live.run.run = some r' → r'.events = r.events →
          d'.live.state = d.live.state := by
  obtain ⟨d, hd⟩ : ∃ d, grantedScene.loop = some d := Option.isSome_iff_exists.mp (by decide +kernel)
  obtain ⟨r, input, at_, body, seed, hfind, hevents, hdecode, hfeed, hsame⟩ :=
    loop_state_follows_log grantedScene_reachable hd
  have hlog : (grantedScene.loop.bind fun d ↦ grantedScene.world.store.find? d.live.run.run).map
      (fun r ↦ r.events.map Event.typeName) =
        some ["workflow_started", "signal_received", "actions_delivered", "timer_fired"] := by
    decide +kernel
  rw [hd, Option.bind_some, hfind, Option.map_some, Option.some.injEq] at hlog
  exact ⟨d, grantedScene_reachable, hd, r, input, at_, body, seed, hfind, hlog, hevents, hdecode,
    hfeed, hsame⟩

/-- Every running run's log is of the executor's shape, and replaying it succeeds with exactly
the actions no marker confirmed pending. -/
theorem running_log_shaped {sc : Scene Coordinator} (hsc : Reachable coordinator sc)
    {run : Uuid} {r : StoredRun} (hfind : sc.world.store.find? run = some r)
    (hrun : r.info.status.isRunning = true) :
    ∃ input at_ body, r.events = .started input at_ :: body ∧
      (∀ e ∈ body, e.isTerminal = false) ∧
      (body = [] ∨ ∃ s₀, coordinator.restore input = .ok s₀) ∧
      ∀ s₀, coordinator.restore input = .ok s₀ → ∃ s pending,
        coordinator.Logged s₀ body s pending ∧
        replayInputs coordinator r.info s₀ [] body = .ok (s, pending) ∧
        (∀ pre e, body = pre ++ [e] → e.isInput = true →
          ∃ s₁, coordinator.feed s₀ pre = .ok s₁ ∧ coordinator.apply s₁ e = .ok (s, pending)) ∧
        (∀ pre n, body = pre ++ [.delivered n] → pending = []) := by
  have hshape := hsc.shaped coordinator_total hfind hrun
  obtain ⟨input, at_, body, hevents, hbody⟩ := hsc.shaped coordinator_total hfind hrun
  -- a log that goes past its start was read from a restored input
  have hrestores : body = [] ∨ ∃ s₀, coordinator.restore input = .ok s₀ :=
    hbody.imp id fun ⟨s₀, _, _, hrestore, _⟩ ↦ ⟨s₀, hrestore⟩
  refine ⟨input, at_, body, hevents, hshape.not_terminal hevents, hrestores,
    fun s₀ hrestore ↦ ?_⟩
  obtain ⟨s, pending, hlog⟩ := hshape.logged hevents hrestore
  exact ⟨s, pending, hlog, hlog.replayInputs r.info,
    fun _ _ hb he ↦ hlog.pending_of_input hb he, fun _ _ hb ↦ hlog.pending_of_delivered hb⟩

/-- A second request, from a requester that holds no mailbox, sent half a minute after noon. -/
def lateSignal : Signal :=
  ⟨acquireSignal, (⟨"b", "b-run", "b-req-0", ⟨1772366430, 0⟩, Span.ofMillis 3600000, 0⟩ :
    Request).toJson, ⟨1772366430, 0⟩⟩

/-- The loop of `grantedScene` once it took the second request and granted it: the grant has no
mailbox to go to, so the delivery fails and the loop ends, leaving its run running. -/
def undeliveredScene : Scene Coordinator :=
  Scene.wake coordinator false
    ⟨{ grantedScene.world with bus := (grantedScene.world.bus.signal coordinatorId lateSignal).1 },
      grantedScene.loop⟩

/-- The run left by a loop whose last grant could not be delivered is of the executor's shape:
a logged request, its marker, a tick and the second request, which no marker follows. -/
theorem undelivered_coordinator_log_shaped :
    ∃ r, Reachable coordinator undeliveredScene ∧ undeliveredScene.loop = none ∧
      undeliveredScene.world.store.find? (Uuid.minted 0) = some r ∧
      r.info.status.isRunning = true ∧
      r.events.map Event.typeName = ["workflow_started", "signal_received", "actions_delivered",
        "timer_fired", "signal_received"] ∧
      ∃ input at_ body, r.events = .started input at_ :: body ∧
        (∀ e ∈ body, e.isTerminal = false) ∧
        (body = [] ∨ ∃ s₀, coordinator.restore input = .ok s₀) ∧
        ∀ s₀, coordinator.restore input = .ok s₀ → ∃ s pending,
          coordinator.Logged s₀ body s pending ∧
          replayInputs coordinator r.info s₀ [] body = .ok (s, pending) ∧
          (∀ pre e, body = pre ++ [e] → e.isInput = true →
            ∃ s₁, coordinator.feed s₀ pre = .ok s₁ ∧ coordinator.apply s₁ e = .ok (s, pending)) ∧
          (∀ pre n, body = pre ++ [.delivered n] → pending = []) := by
  have hreach : Reachable coordinator undeliveredScene :=
    (grantedScene_reachable.send coordinatorId lateSignal).wake false
  obtain ⟨r, hfind⟩ : ∃ r, undeliveredScene.world.store.find? (Uuid.minted 0) = some r :=
    Option.isSome_iff_exists.mp (by decide +kernel)
  have hread : (undeliveredScene.world.store.find? (Uuid.minted 0)).map
      (fun r ↦ (r.info.status.isRunning, r.events.map Event.typeName)) =
        some (true, ["workflow_started", "signal_received", "actions_delivered", "timer_fired",
          "signal_received"]) := by
    decide +kernel
  rw [hfind, Option.map_some, Option.some.injEq, Prod.mk.injEq] at hread
  obtain ⟨hrun, hlog⟩ := hread
  exact ⟨r, hreach, by decide +kernel, hfind, hrun, hlog, running_log_shaped hreach hfind hrun⟩

end SlotKeeper.Pool
