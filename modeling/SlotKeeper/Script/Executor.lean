import SlotKeeper.Script.Tasks
import SlotKeeper.Script.Config
import SlotKeeper.Script.Rename
import SlotKeeper.Script.Views
import SlotKeeper.Script.Retry
import SlotKeeper.Pool.Admin

/-!
# Scripted executor

Runs the coordinator, its clients, its admin and its supervisors in one process and answers each
step with what it did and what can be observed after it: the signals recording mailboxes got,
the coordinator's current run with the events added since it was last shown, the number of runs,
the acquisitions that ended and those still waiting, the run loop's state, whether the
coordinator's identity has a mailbox, and the answers of queries asked without waiting.

Run ids are shown as `run#k` in the order they are first shown; every other identifier text is
shown as `<uuid>`.
-/

namespace SlotKeeper.Script.ExecutorRun

open Json Workflow Engine Pool Store Backoff Tasks

/-- How long a step waits for a query's answer, in runtime time. -/
def guard : Span := Span.ofSeconds 3600

/-- The answer members of a query's outcome. -/
def queryView (r : Except QueryError Json) : List (String × Json) :=
  match r with
  | .ok v => [("query_ok", v)]
  | .error (.rejected f) => [("query_rejected", faultView f)]
  | .error e => [("query_error", .string e.message)]

/-- A pool result as an answer. -/
def poolAnswer (r : Except PoolError Unit) : Reply :=
  match r with
  | .ok () => .ok [("ok", .bool true)]
  | .error e => .error (poolErrorView e)

/-- A pool result as an answer member. -/
def poolView (r : Except PoolError Unit) : Json :=
  match r with
  | .ok () => Json.record [("ok", .bool true)]
  | .error e => poolErrorView e

/-- The end of an acquisition as an answer member. -/
def acquiredView : Ended → Json
  | .answered (.ok resp) => Json.record [("ok", resp.toJson)]
  | .answered (.error e) => poolErrorView e
  | .crashed => Json.record [("error", .string "join"), ("message", .string "acquire task failed")]

/-- The outcome of a run loop as an answer member. -/
def outcomeView (r : Except ExecutorError Unit) : Json :=
  match r with
  | .ok () => Json.record [("ok", .bool true)]
  | .error e => executorErrorView e

/-- Asks the coordinator's identity a query and waits for the answer, at most the guard's time;
`none` when no answer came. -/
def askAndWait (sc : Scene) (identity name : String) :
    Scene × Option (Except QueryError Json) :=
  let (r, sc) := sc.onWorld (World.onBus (·.ask identity name))
  match r with
  | .error e => (sc, some (.error (.delivery e)))
  | .ok ticket =>
    let (sc, answered) := sc.passTime guard fun sc => sc.world.bus.answered ticket
    if answered then
      let (r, sc) := sc.onWorld (World.onBus (·.collect ticket))
      (sc, r)
    else (sc, none)

/-- The idle client with an id. -/
def idleClient (sc : Scene) (id : String) : Except Json Client :=
  match sc.clients.find? (·.1 == id) with
  | some (_, c) => .ok c
  | none => refuse "no idle client with that id"

/-- Starts an acquisition by an idle client. -/
def startAcquire (sc : Scene) (id : String) (c : Client) (timeout : Span)
    (policy : Option Policy) : Scene :=
  let sc := { sc with clients := sc.clients.filter (·.1 != id) }
  let (r, sc) := sc.onWorld (c.acquire timeout policy)
  match r with
  | .going a => { sc with pending := sc.pending ++ [⟨id, c, a⟩] }
  | .done outcome =>
    { sc with clients := sc.clients ++ [(id, c)], acquired := sc.acquired ++ [(id, .answered outcome)] }
  | .crashed _ =>
    let sc := (sc.onWorld (World.changeBus (·.release c.mailbox))).2
    { sc with acquired := sc.acquired ++ [(id, .crashed)] }

/-- Shuts the admin's supervisor down, if there is one; answers its outcome. -/
def shutdownAdmin (sc : Scene) : Scene × Except ExecutorError Unit :=
  match sc.admin with
  | none => (sc, .ok ())
  | some s =>
    let sc := { sc with admin := some s.cancel }.settle
    let outcome := (sc.admin.bind Supervisor.outcome?).getD (.ok ())
    ({ sc with admin := none }, outcome)

/-- Replaces the coordinator with a fresh one from `config`: shuts the admin's supervisor down,
then terminates any running run and starts a new supervisor. -/
def reset (sc : Scene) (config : Config) : Scene × Reply :=
  let (sc, _) := shutdownAdmin sc
  let (r, sc) := sc.onWorld (Admin.replace config).run
  match r with
  | .error e => (sc, .error (poolErrorView e))
  | .ok s => ({ sc with admin := some s }, .ok [("ok", .bool true)])

/-- The limits of the executor from the request's `executor_config`. -/
def limitsOf (j : Json) : Except Json Limits := do
  match j.field? "executor_config" with
  | none | some .null => pure Limits.default
  | some c =>
    let after ← mayAs c "continue_as_new_after_ms" u64
    let most ← mayAs c "max_events_per_run" usize
    let l := Limits.default
    let l := match after with
      | some ms => l.withContinueAfter (Span.ofMillis ms)
      | none => l
    pure (match most with
      | some n => l.withMaxEvents n
      | none => l)

/-- Runs one step. -/
def step (sc : Scene) (j : Json) : Scene × Reply :=
  let lift {α : Type} (r : Except Json α) (k : α → Scene × Reply) : Scene × Reply :=
    match r with
    | .ok a => k a
    | .error e => (sc, .error e)
  match needText j "action" with
  | .error e => (sc, .error e)
  | .ok "run" =>
    match sc.loop with
    | some (.live ..) => (sc, refuse "coordinator already running")
    | _ =>
      match j.field? "workflow" with
      | some (.string "echo") =>
        lift (needAs j "input" u64) fun n =>
        let (p, sc) := sc.onWorld (Driving.begin Workflow.echo coordinatorId n)
        let loop := match p with
          | .waiting d => Loop.live (.echo d) false
          | .finished r => .ended r
        ({ sc with loop := some loop }, .ok [("started", .bool true)])
      | _ =>
        lift (needAs j "input" Seed.decoder) fun seed =>
        let (p, sc) := sc.onWorld (Driving.begin coordinator coordinatorId seed)
        let loop := match p with
          | .waiting d => Loop.live (.pool d) false
          | .finished r => .ended r
        ({ sc with loop := some loop }, .ok [("started", .bool true)])
  | .ok "signal" =>
    lift (do
      let target ← (mayAs j "to" text).map (·.getD coordinatorId)
      let kind ← needText j "signal"
      pure (kind, (j.field? "payload").getD .null, target)) fun (kind, payload, target) =>
    let now := sc.world.clock.now
    let (r, sc) := sc.onWorld (World.onBus fun b => b.signal target ⟨kind, payload, now⟩)
    match r with
    | .ok () => (sc, .ok [("sent", .bool true)])
    | .error e => (sc, .ok [("sent", .bool false), ("delivery_error", .string e.message)])
  | .ok "query" =>
    lift (needText j "query") fun name =>
    if mentions j "async" then
      let n := sc.asked
      let sc := { sc with asked := n + 1 }
      let (r, sc) := sc.onWorld (World.onBus (·.ask coordinatorId name))
      let sc := match r with
        | .ok ticket => { sc with waiting := sc.waiting ++ [(n, ticket)] }
        | .error e => { sc with answers := sc.answers ++ [(n, .error (.delivery e))] }
      (sc, .ok [("query_started", Json.nat n)])
    else
      match askAndWait sc coordinatorId name with
      | (sc, some r) => (sc, .ok (queryView r))
      | (sc, none) => (sc, refuse "query never answered")
  | .ok "advance" =>
    lift (needAs j "ms" u64) fun ms =>
    let sc := { sc with world := { sc.world with clock := sc.world.clock.advance (Span.ofMillis ms) } }
    (sc, .ok [("now", sc.world.clock.now.toJson)])
  | .ok "set" =>
    lift (needAs j "to" Instant.decoder) fun t =>
    let sc := { sc with world := { sc.world with clock := sc.world.clock.set t } }
    (sc, .ok [("now", sc.world.clock.now.toJson)])
  | .ok "cancel" =>
    match sc.loop with
    | some (.live job _) =>
      let sc := { sc with loop := some (.live job true) }.settle
      match sc.loop with
      | some (.ended outcome) =>
        ({ sc with loop := none }, match outcome with
          | .ok () => .ok [("ok", .bool true)]
          | .error e => .error (executorErrorView e))
      | _ => (sc, refuse "coordinator task did not stop")
    | _ => (sc, refuse "no coordinator task")
  | .ok "abort" =>
    match sc.loop with
    | some (.live job _) =>
      let sc := (sc.onWorld (World.changeBus (·.release job.mailbox))).2
      ({ sc with loop := none }, .ok [("aborted", .bool true)])
    | _ => (sc, refuse "no coordinator task")
  | .ok "terminate" =>
    lift (needText j "reason") fun reason =>
    let (r, sc) := sc.onWorld
      ((Engine.terminate coordinatorId reason : ExceptT ExecutorError WorldM _).run)
    match r with
    | .ok id => (sc, .ok [("terminated", Json.opt (fun u => .string u.render) id)])
    | .error e => (sc, .error (executorErrorView e))
  | .ok "register" =>
    lift (needText j "id") fun id =>
    let (g, sc) := sc.record id
    if mentions j "describe" then
      (sc, .ok [("mailbox", Json.record [("identity", .string id),
        ("debug", .string ("Mailbox \x7b identity: " ++ debugQuote id ++ ", generation: " ++
          toString g ++ " \x7d"))])])
    else (sc, .ok [])
  | .ok "unregister" =>
    lift (needText j "id") fun id =>
    match sc.recorders.find? (·.identity == id) with
    | some r =>
      let sc := (sc.onWorld (World.changeBus (·.release r.mailbox))).2
      ({ sc with recorders := sc.recorders.filter (·.identity != id) },
        .ok [("unregistered", .bool true)])
    | none => (sc, .ok [("unregistered", .bool false)])
  | .ok "seed_run" =>
    lift (do
      let t ← needText j "workflow_type"
      let input ← need j "input"
      pure (t, input)) fun (t, input) =>
    let (r, store) := sc.world.store.startRun coordinatorId t input sc.world.clock.now
    let sc := { sc with world := { sc.world with store } }
    match r with
    | .ok _ => (sc, .ok [("seeded", .bool true)])
    | .error e => (sc, .error (failure "store" e.message))
  | .ok "append" =>
    lift (needAs j "events" (listOf Event.decoder)) fun events =>
    match sc.world.store.currentRun coordinatorId with
    | none => (sc, refuse "no run to append to")
    | some info =>
      let count := sc.world.store.eventCount info.run
      let (r, store) := sc.world.store.appendEvents info.run (Memory.sequenceOf count) events
      let sc := { sc with world := { sc.world with store } }
      match r with
      | .ok n => (sc, .ok [("sequence", Json.int n)])
      | .error e => (sc, .error (failure "store" e.message))
  | .ok "client_new" =>
    lift (needText j "id") fun id =>
    let recorded := (sc.recorders.filter (·.identity == id)).map (·.mailbox)
    let sc := (sc.onWorld (World.changeBus fun b => recorded.foldl Bus.release b)).2
    let sc := { sc with recorders := sc.recorders.filter (·.identity != id) }
    match (do
      let run ← needText j "run_id"
      let target ← mayAs j "coordinator" text
      pure (run, target) : Except Json _) with
    | .error e => (sc, .error e)
    | .ok (run, target) =>
    let (c, sc) := sc.onWorld (Client.open id run)
    let c := match target with
      | some t => { c with coordinator := t }
      | none => c
    let dropped := (sc.clients.filter (·.1 == id)).map (·.2.mailbox)
    let sc := (sc.onWorld (World.changeBus fun b => dropped.foldl Bus.release b)).2
    let sc := { sc with clients := sc.clients.filter (·.1 != id) ++ [(id, c)] }
    if mentions j "describe" then
      (sc, .ok [("client", Json.record [("requester_id", .string id), ("run_id", .string run),
        ("debug", .string c.debugText)])])
    else (sc, .ok [("client", .bool true)])
  | .ok "client_acquire" =>
    lift (do
      let id ← needText j "id"
      let c ← idleClient sc id
      let timeout ← needAs j "timeout_ms" Span.millisDecoder
      pure (id, timeout, c)) fun (id, timeout, c) =>
    (startAcquire sc id c timeout none, .ok [("acquire_started", .bool true)])
  | .ok "client_acquire_retry" =>
    lift (do
      let id ← needText j "id"
      let c ← idleClient sc id
      let timeout ← needAs j "timeout_ms" Span.millisDecoder
      let policy ← RetryRun.policyOf (← need j "policy")
      pure (id, timeout, policy, c)) fun (id, timeout, policy, c) =>
    (startAcquire sc id c timeout (some policy), .ok [("acquire_started", .bool true)])
  | .ok "client_release" =>
    lift (do idleClient sc (← needText j "id")) fun c =>
    let (r, sc) := sc.onWorld c.release
    (sc, poolAnswer r)
  | .ok "client_heartbeat" =>
    lift (do idleClient sc (← needText j "id")) fun c =>
    let (r, sc) := sc.onWorld c.heartbeat
    (sc, poolAnswer r)
  | .ok "client_update_capacity" =>
    lift (do
      let c ← idleClient sc (← needText j "id")
      let n ← needAs j "n" i64
      pure (c, n)) fun (c, n) =>
    let (r, sc) := sc.onWorld (c.updateCapacity n)
    (sc, poolAnswer r)
  | .ok "client_heartbeat_loop" =>
    lift (do
      let id ← needText j "id"
      let c ← idleClient sc id
      let interval ← needAs j "interval_ms" Span.millisDecoder
      pure (id, interval, c)) fun (id, interval, c) =>
    let (h, sc) := sc.onWorld (c.heartbeats interval)
    ({ sc with beats := sc.beats.filter (·.owner != id) ++ [⟨id, h⟩] },
      .ok [("heartbeating", .bool true)])
  | .ok "client_heartbeat_stop" =>
    lift (needText j "id") fun id =>
    let stopped := sc.beats.any (·.owner == id)
    ({ sc with beats := sc.beats.filter (·.owner != id) }, .ok [("stopped", .bool stopped)])
  | .ok "client_drop" =>
    lift (needText j "id") fun id =>
    match sc.pending.find? (·.owner == id) with
    | some p =>
      let sc := (sc.onWorld (World.changeBus (·.release p.client.mailbox))).2
      ({ sc with pending := sc.pending.filter (·.owner != id) },
        .ok [("dropped", .bool true), ("was_acquiring", .bool true)])
    | none =>
      match sc.clients.find? (·.1 == id) with
      | some (_, c) =>
        let sc := (sc.onWorld (World.changeBus (·.release c.mailbox))).2
        ({ sc with clients := sc.clients.filter (·.1 != id) }, .ok [("dropped", .bool true)])
      | none => (sc, .ok [("dropped", .bool false)])
  | .ok "admin_start" =>
    lift (needAs j "config" Config.decoder) fun config =>
    let (s, sc) := sc.onWorld (Admin.start sc.admin config)
    ({ sc with admin := some s }, .ok [("admin_started", .bool true)])
  | .ok "admin_status" =>
    match askAndWait sc coordinatorId statusQuery with
    | (sc, some (.ok v)) => (sc, .ok [("status", v)])
    | (sc, some (.error e)) => (sc, .error (poolErrorView (.query e)))
    | (sc, none) => (sc, refuse "query never answered")
  | .ok "admin_update_capacity" =>
    lift (needAs j "n" i64) fun n =>
    let (r, sc) := sc.onWorld (Admin.updateCapacity n)
    (sc, poolAnswer r)
  | .ok "admin_reset" =>
    lift (needAs j "config" Config.decoder) fun config => reset sc config
  | .ok "admin_reset_env" =>
    lift (ConfigRun.environment j false) fun vars => reset sc (Config.fromEnv vars)
  | .ok "admin_reset_process_env" =>
    lift (ConfigRun.envVariables j) fun vars => reset sc (Config.fromEnv (ConfigRun.lookup vars))
  | .ok "admin_shutdown" =>
    let (sc, outcome) := shutdownAdmin sc
    (sc, poolAnswer (supervisionResult outcome))
  | .ok "wait" =>
    lift (needAs j "ms" u64) fun ms =>
    ((sc.passTime (Span.ofMillis ms) fun _ => false).1, .ok [("waited", .bool true)])
  | .ok "query_abort" =>
    lift (needAs j "n" u64) fun n =>
    let found := sc.waiting.any (·.1 == n)
    ({ sc with waiting := sc.waiting.filter (·.1 != n) }, .ok [("query_aborted", .bool found)])
  | .ok "executor_info" =>
    (sc, .ok [("continue_as_new_after", sc.world.limits.continueAfter.toJson),
      ("max_events_per_run", Json.nat sc.world.limits.maxEvents),
      ("now", sc.world.clock.now.toJson),
      ("store_run_count", Json.nat sc.world.store.runCount),
      ("bus_registered", .bool (sc.world.bus.isRegistered coordinatorId)),
      ("admin_same_executor", .bool true)])
  | .ok "supervisor_start" =>
    match sc.bare with
    | some _ => (sc, refuse "supervisor already held")
    | none =>
      lift (needAs j "config" Config.decoder) fun config =>
      let (s, sc) := sc.onWorld (Supervisor.start config)
      ({ sc with bare := some s }, .ok [("supervisor_started", .bool true)])
  | .ok "supervisor_is_finished" =>
    match sc.bare with
    | some s => (sc, .ok [("finished", .bool s.isFinished)])
    | none => (sc, refuse "no supervisor")
  | .ok "supervisor_join" =>
    match sc.bare with
    | some s =>
      match s.outcome? with
      | some r => ({ sc with bare := none }, .ok [("joined", poolView (supervisionResult r))])
      | none => (sc, .ok [("joined", .null)])
    | none => (sc, refuse "no supervisor")
  | .ok "supervisor_shutdown" =>
    match sc.bare with
    | some s =>
      let sc := { sc with bare := some s.cancel }.settle
      let outcome := (sc.bare.bind Supervisor.outcome?).getD (.ok ())
      ({ sc with bare := none }, .ok [("shutdown", poolView (supervisionResult outcome))])
    | none => (sc, refuse "no supervisor")
  | .ok "supervisor_abort" =>
    match sc.bare with
    | some s =>
      let sc := (sc.onWorld s.abort).2
      ({ sc with bare := none }, .ok [("aborted", .bool true)])
    | none => (sc, refuse "no supervisor")
  | .ok "inject_fault" =>
    lift (do
      let method ← needText j "method"
      let after ← (mayAs j "after" u32).map (·.getD 0)
      let count ← (mayAs j "count" u32).map (·.getD 1)
      pure (method, count, after)) fun (method, count, after) =>
    let sc := match Operation.ofName? method with
      | some op =>
        { sc with world := { sc.world with
          faults := sc.world.faults.arm ⟨op, after, count, mentions j "drop_first"⟩ } }
      | none => sc
    (sc, .ok [("injected", .bool true)])
  | .ok a => (sc, refuse ("unknown executor action " ++ a))

/-- The signals and queries recording mailboxes got, by identity. -/
def deliveredView (records : List (String × Json)) : Json :=
  let ids := records.foldl (fun acc (id, _) => if acc.contains id then acc else acc ++ [id]) []
  Json.record (ids.map fun id => (id, .array ((records.filter (·.1 == id)).map (·.2))))

/-- What can be observed after a step; the scene forgets what it reported. -/
def observe (sc : Scene) : Scene × List (String × Json) :=
  -- answers of queries asked without waiting
  let (sc, answered) := sc.waiting.foldl (fun (acc : Scene × List (Nat × Except QueryError Json))
      (n, ticket) =>
    let (r, sc) := acc.1.onWorld (World.onBus (·.collect ticket))
    match r with
    | some r => ({ sc with waiting := sc.waiting.filter (·.1 != n) }, acc.2 ++ [(n, r)])
    | none => (sc, acc.2)) (sc, [])
  let answers := sc.answers ++ answered
  let store := sc.world.store
  let (runView, shown) := match store.currentRun coordinatorId with
    | none => (Json.null, sc.shown)
    | some info =>
      let events := ((store.find? info.run).map fun (r : StoredRun) => r.events).getD []
      let fresh := match sc.shown with
        | some (id, n) => if id == info.run then events.drop n else events
        | none => events
      (Json.record [("workflow_id", .string info.workflow), ("run_id", .string info.run.render),
        ("workflow_type", .string info.workflowType), ("status", .string info.status.name),
        ("started_at", info.startedAt.toJson), ("event_count", Json.nat events.length),
        ("new_events", .array (fresh.map Event.toJsonUnstamped))], some (info.run, events.length))
  let task := match sc.loop with
    | none => Json.string "none"
    | some (.live ..) => .string "running"
    | some (.ended outcome) => Json.record [("finished", outcomeView outcome)]
  let loop := match sc.loop with
    | some (.ended _) => none
    | other => other
  let acquiring := (sc.pending.map fun (p : Pending) => p.owner).mergeSort (fun a b => decide (a ≤ b))
  let members : List (String × Json) :=
    [("delivered", deliveredView sc.records), ("run", runView),
      ("run_count", Json.nat store.runCount), ("task", task),
      ("registered", .bool (sc.world.bus.isRegistered coordinatorId))] ++
    (if sc.acquired.isEmpty then []
     else [("acquired", Json.record (sc.acquired.map fun (id, r) => (id, acquiredView r)))]) ++
    (if acquiring.isEmpty then [] else [("acquiring", Json.array (acquiring.map Json.string))]) ++
    (if answers.isEmpty then []
     else [("queries", Json.record (answers.map fun (n, r) =>
       (toString n, Json.record (queryView r))))]) ++
    (if sc.waiting.isEmpty then []
     else [("queries_pending", Json.array (((sc.waiting.map (·.1)).mergeSort (fun a b => decide (a ≤ b))).map Json.nat))])
  ({ sc with records := [], acquired := [], answers := [], loop, shown }, members)

/-- The run ids of the store, by minting order. -/
def runIds (sc : Scene) : List Uuid :=
  (List.range sc.world.store.minted).map Uuid.minted

/-- Shows run ids as `run#k` and every other identifier as `<uuid>`. -/
def hideIds (seen : List Uuid) (j : Json) : Json :=
  rewriteIds (fun text =>
    match seen.zipIdx.find? (·.1.render == text) with
    | some (_, k) => "run#" ++ toString k
    | none => "<uuid>") j

/-- The crash of a step that sets variables the process environment refuses. -/
def environmentCrash (j : Json) : Option String :=
  match j.field? "action", ConfigRun.envVariables j with
  | some (.string "admin_reset_process_env"), .ok vars =>
    match ConfigRun.setAll vars with
    | .error crash => some crash
    | .ok () => none
  | _, _ => none

/-- Runs the steps in order; a step that crashes the process ends the whole request. -/
def runSteps : Scene → List Json → Except String (List Json)
  | _, [] => .ok []
  | sc, j :: rest =>
    match environmentCrash j with
    | some crash => .error crash
    | none =>
      let (sc, r) := step sc j
      let (sc, seen) := observe sc.settle
      let answer := r.extend seen
      let ids := runIds sc
      let shownIds := (shownTexts answer).filterMap fun t => ids.find? (·.render == t)
      let sc := { sc with seen := noteIds sc.seen shownIds }
      (runSteps sc rest).map (hideIds sc.seen answer :: ·)

/-- Answers a scripted executor request. -/
def answer (j : Json) : Json := finish do
  let start ← needAs j "start" Instant.decoder
  let limits ← limitsOf j
  let items ← steps j
  let clients ← (mayAs j "clients" (listOf text)).map (·.getD [])
  let sc := clients.foldl (fun sc id => (sc.record id).2) (Scene.fresh start limits)
  match runSteps sc items with
  | .ok answers => pure (Json.record [("steps", .array answers)])
  | .error crash => .error (failure "panic" crash)

end SlotKeeper.Script.ExecutorRun
