import SlotKeeper.Proofs.Store.Runs

/-!
# Refused calls and optimistic appends

The calls that change the in-memory store (`Call`), and why each is refused. `Call.refusal` reads
the reason off the store alone: the run a call names is not kept, or no longer running; an append
expects another position than the run's; a start finds its workflow's latest run running.

The main statement, `calls_refused_atomically`: every call is refused exactly for its `refusal`,
and a refused call leaves the store as it was, runs, logs, statuses and latest runs alike. An
accepted append adds its batch to the one run's log and answers the expected position moved on by
the batch, in the signed 32-bit arithmetic of positions. So once an append at a position went
through, a second append at that position is refused, unless the first batch held a multiple of
`2^32` events, which brings the position round to where it was (`appendEvents_twice`).
-/

namespace SlotKeeper.Store

open Json Workflow

/-- A call that changes a store. -/
inductive Call where
  | startRun (workflow workflowType : String) (input : Json) (at_ : Instant)
  | appendEvents (run : Uuid) (expected : Int) (events : List Event)
  | continueAsNew (run : Uuid) (snapshot : Json) (at_ : Instant)
  | closeRun (run : Uuid) (status : Status) (reason : String)

/-- The failure an answer reports, if any. -/
def failureOf {α : Type} : Except StoreError α → Option StoreError
  | .ok _ => none
  | .error e => some e

namespace Call

/-- The failure a call answers, if any, and the store it leaves. -/
def run (m : Memory) : Call → Option StoreError × Memory
  | .startRun workflow workflowType input at_ =>
    let r := m.startRun workflow workflowType input at_
    (failureOf r.1, r.2)
  | .appendEvents id expected events =>
    let r := m.appendEvents id expected events
    (failureOf r.1, r.2)
  | .continueAsNew id snapshot at_ =>
    let r := m.continueAsNew id snapshot at_
    (failureOf r.1, r.2)
  | .closeRun id status reason =>
    let r := m.closeRun id status reason
    (failureOf r.1, r.2)

/-- The store a call leaves, whatever it answers. -/
def apply (m : Memory) (c : Call) : Memory := (c.run m).2

end Call

namespace Memory

/-- Why the run `id` cannot be changed: it is not kept, or it is closed. -/
def closedRefusal (m : Memory) (id : Uuid) : Option StoreError :=
  match m.find? id with
  | none => some (.runNotFound id)
  | some r => if r.info.status.isRunning then none else some (.runClosed id r.info.status)

/-- The store after a sequence of calls. -/
def perform (m : Memory) (calls : List Call) : Memory := calls.foldl Call.apply m

@[simp] theorem perform_nil (m : Memory) : m.perform [] = m := rfl

@[simp] theorem perform_cons (m : Memory) (c : Call) (calls : List Call) :
    m.perform (c :: calls) = (c.apply m).perform calls :=
  rfl

end Memory

/-- Why a call is refused, read off the store: a start, when its workflow's latest run is
running; an append, when its run is missing or closed or stands at another position; the other
calls, when their run is missing or closed. -/
def Call.refusal (m : Memory) : Call → Option StoreError
  | .startRun workflow .. =>
    (m.latestOf workflow).bind fun id =>
      match m.find? id with
      | some r => if r.info.status.isRunning then some (.runAlreadyActive workflow id) else none
      | none => none
  | .appendEvents id expected _ =>
    match m.find? id with
    | none => some (.runNotFound id)
    | some r =>
      if !r.info.status.isRunning then some (.runClosed id r.info.status)
      else if expected ≠ Memory.sequenceOf r.events.length then
        some (.conflict expected (Memory.sequenceOf r.events.length))
      else none
  | .continueAsNew id .. => m.closedRefusal id
  | .closeRun id .. => m.closedRefusal id

namespace Memory

variable {m : Memory}

theorem running_eq_error {id : Uuid} {e : StoreError} :
    m.running id = .error e ↔ m.closedRefusal id = some e := by
  unfold running closedRefusal
  cases m.find? id with
  | none => simp
  | some r => by_cases hr : r.info.status.isRunning = true <;> simp [hr]

/-- The kept run of `id` is running exactly when nothing refuses changing it. -/
theorem closedRefusal_eq_none {id : Uuid} :
    m.closedRefusal id = none ↔ ∃ r, m.running id = .ok r := by
  unfold running closedRefusal
  cases m.find? id with
  | none => simp
  | some r => by_cases hr : r.info.status.isRunning = true <;> simp [hr]

/-- A position is a count read as a signed 32-bit number. -/
theorem sequenceOf_eq_bmod (n : Nat) : sequenceOf n = Int.bmod n 4294967296 := by
  rw [Int.bmod_def]
  unfold sequenceOf
  dsimp only
  split <;> split <;> omega

/-- Positions of counts agree exactly when the counts agree modulo `2^32`. -/
theorem sequenceOf_eq_iff {a b : Nat} :
    sequenceOf a = sequenceOf b ↔ a % 4294967296 = b % 4294967296 := by
  unfold sequenceOf
  dsimp only
  constructor
  · intro h
    split at h <;> split at h <;> omega
  · intro h
    rw [h]

/-- Moving a count on moves its position on, in 32-bit arithmetic. -/
theorem sequenceOf_add (a b : Nat) :
    sequenceOf (a + b) = Int.bmod (sequenceOf a + b) 4294967296 := by
  rw [sequenceOf_eq_bmod, sequenceOf_eq_bmod, Int.bmod_add_bmod, Int.natCast_add]

end Memory

namespace Call

variable {m : Memory}

theorem run_startRun (m : Memory) (workflow workflowType : String) (input : Json)
    (at_ : Instant) :
    (Call.startRun workflow workflowType input at_).run m =
      (failureOf (m.startRun workflow workflowType input at_).1,
        (m.startRun workflow workflowType input at_).2) :=
  rfl

/-- A start is refused exactly when its workflow's latest run is running. -/
theorem refusal_startRun (m : Memory) (workflow workflowType : String) (input : Json)
    (at_ : Instant) :
    ((Call.startRun workflow workflowType input at_).run m).1 =
      (Call.startRun workflow workflowType input at_).refusal m ∧
    ((Call.startRun workflow workflowType input at_).refusal m ≠ none →
      ((Call.startRun workflow workflowType input at_).run m).2 = m) := by
  simp only [run_startRun, refusal, Memory.startRun]
  cases hlatest : m.latestOf workflow with
  | none => simp [failureOf]
  | some id =>
    cases hfind : m.find? id with
    | none => simp [hfind, failureOf]
    | some r => by_cases hr : r.info.status.isRunning = true <;> simp [hfind, hr, failureOf]

/-- An append is refused exactly for a missing or closed run or another position. -/
theorem refusal_appendEvents (m : Memory) (id : Uuid) (expected : Int) (events : List Event) :
    ((Call.appendEvents id expected events).run m).1 =
      (Call.appendEvents id expected events).refusal m ∧
    ((Call.appendEvents id expected events).refusal m ≠ none →
      ((Call.appendEvents id expected events).run m).2 = m) := by
  simp only [run, refusal, Memory.appendEvents, Memory.running]
  cases hfind : m.find? id with
  | none => simp [failureOf]
  | some r =>
    by_cases hr : r.info.status.isRunning = true
    · by_cases hc : Memory.sequenceOf r.events.length ≠ expected
      · have hc' : expected ≠ Memory.sequenceOf r.events.length := Ne.symm hc
        simp [hr, hc, hc', failureOf]
      · have hc' : expected = Memory.sequenceOf r.events.length := by omega
        simp [hr, hc', failureOf]
    · simp [hr, failureOf]

/-- Continuing and closing are refused exactly for a missing or closed run: both change a
running run and answer success. -/
theorem refusal_of_running {α : Type} {id : Uuid} (op : StoredRun → Except StoreError α × Memory)
    (hop : ∀ r, ∃ a s, op r = (.ok a, s)) :
    let result : Except StoreError α × Memory := match m.running id with
      | .error e => (.error e, m)
      | .ok r => op r
    failureOf result.1 = m.closedRefusal id ∧ (m.closedRefusal id ≠ none → result.2 = m) := by
  intro result
  cases hr : m.running id with
  | error e =>
    have hrefuse := Memory.running_eq_error.mp hr
    simp [result, hr, hrefuse, failureOf]
  | ok r =>
    have hnone : m.closedRefusal id = none := Memory.closedRefusal_eq_none.mpr ⟨r, hr⟩
    obtain ⟨a, s, hs⟩ := hop r
    simp [result, hr, hs, hnone, failureOf]

/-- Every call is refused exactly for its `refusal`, and a refused call changes nothing. -/
theorem run_refused (m : Memory) (c : Call) :
    (c.run m).1 = c.refusal m ∧ (c.refusal m ≠ none → (c.run m).2 = m) := by
  cases c with
  | startRun workflow workflowType input at_ => exact refusal_startRun m workflow workflowType input at_
  | appendEvents id expected events => exact refusal_appendEvents m id expected events
  | continueAsNew id snapshot at_ =>
    exact refusal_of_running
      (fun r ↦ (.ok ((m.drop id).insertRun r.info.workflow r.info.workflowType snapshot at_).1,
        ((m.drop id).insertRun r.info.workflow r.info.workflowType snapshot at_).2))
      fun _ ↦ ⟨_, _, rfl⟩
  | closeRun id status reason =>
    exact refusal_of_running
      (fun r ↦ (.ok (), m.put id ⟨{ r.info with status }, r.events ++ (closingEvent status reason).toList⟩))
      fun _ ↦ ⟨_, _, rfl⟩

/-- A refused call leaves the store as it was. -/
theorem apply_of_refused {c : Call} (h : c.refusal m ≠ none) : c.apply m = m :=
  (run_refused m c).2 h

end Call

namespace Memory

variable {m : Memory}

/-- An accepted append stood at its running run's position. -/
theorem appendEvents_eq_ok {id : Uuid} {expected : Int} {events : List Event} {n : Int}
    (h : (m.appendEvents id expected events).1 = .ok n) :
    ∃ r, m.find? id = some r ∧ r.info.status.isRunning = true ∧
      expected = sequenceOf r.events.length := by
  unfold appendEvents at h
  cases hr : m.running id with
  | error e =>
    rw [hr] at h
    cases h
  | ok r =>
    rw [hr] at h
    dsimp only at h
    obtain ⟨hfind, hrun⟩ := running_eq_ok.mp hr
    by_cases hc : sequenceOf r.events.length ≠ expected
    · rw [if_pos hc] at h
      cases h
    · exact ⟨r, hfind, hrun, by omega⟩

/-- An append at the run's own position adds the batch to the run's log and answers the position
moved on by the batch. -/
theorem appendEvents_accepted {id : Uuid} {r : StoredRun} (hfind : m.find? id = some r)
    (hrun : r.info.status.isRunning = true) (events : List Event) :
    m.appendEvents id (sequenceOf r.events.length) events =
      (.ok (Int.bmod (sequenceOf r.events.length + events.length) 4294967296),
        m.put id { r with events := r.events ++ events }) := by
  unfold appendEvents
  rw [running_eq_ok.mpr ⟨hfind, hrun⟩]
  simp only [ne_eq, not_true_eq_false, if_false, List.length_append, sequenceOf_add]

/-- Once an append went through, an append at the same position goes through as well exactly when
the first batch held a multiple of `2^32` events. -/
theorem appendEvents_twice {id : Uuid} {expected : Int} {first : List Event} {n : Int}
    (h : (m.appendEvents id expected first).1 = .ok n) (second : List Event) :
    (∃ n', ((m.appendEvents id expected first).2.appendEvents id expected second).1 = .ok n') ↔
      first.length % 4294967296 = 0 := by
  obtain ⟨r, hfind, hrun, rfl⟩ := appendEvents_eq_ok h
  rw [appendEvents_accepted hfind hrun first]
  -- the first batch moved the run's log on; the second append must stand at its end
  have hfind' : (m.put id { r with events := r.events ++ first }).find? id =
      some { r with events := r.events ++ first } := find?_put_self m id _
  have hsame : sequenceOf r.events.length = sequenceOf (r.events.length + first.length) ↔
      first.length % 4294967296 = 0 := by
    rw [sequenceOf_eq_iff]
    omega
  rw [← hsame]
  constructor
  · rintro ⟨n', hn'⟩
    obtain ⟨r', hfind'', -, hexp⟩ := appendEvents_eq_ok hn'
    rw [hfind', Option.some.injEq] at hfind''
    rw [hexp, ← hfind'', List.length_append]
  · intro hc
    have hacc := appendEvents_accepted hfind' hrun second
    rw [List.length_append, ← hc] at hacc
    rw [hacc]
    exact ⟨_, rfl⟩

end Memory

/-- Every call is refused exactly for its `refusal` and a refused call leaves the store as it
was; an accepted append changes its run's log alone, adding its batch, and answers the expected
position moved on by the batch in 32-bit arithmetic; and of two appends at one position, in either
order, the second is refused once the first went through with a batch that moves the position. -/
theorem calls_refused_atomically (m : Memory) :
    (∀ c : Call, (c.run m).1 = c.refusal m ∧ (c.refusal m ≠ none → (c.run m).2 = m)) ∧
    (∀ id expected events n, (m.appendEvents id expected events).1 = .ok n →
      ∃ r, m.find? id = some r ∧ r.info.status.isRunning = true ∧
        expected = Memory.sequenceOf r.events.length ∧
        n = Int.bmod (expected + events.length) 4294967296 ∧
        (m.appendEvents id expected events).2.latest = m.latest ∧
        ∀ id', (m.appendEvents id expected events).2.find? id' =
          if id' = id then some { r with events := r.events ++ events } else m.find? id') ∧
    (∀ id expected first second, first.length % 4294967296 ≠ 0 →
      ∀ n, (m.appendEvents id expected first).1 = .ok n →
        ((m.appendEvents id expected first).2.appendEvents id expected second).1.isOk = false) := by
  refine ⟨Call.run_refused m, fun id expected events n h ↦ ?_,
    fun id expected first second hfirst n h ↦ ?_⟩
  · obtain ⟨r, hfind, hrun, hexp⟩ := Memory.appendEvents_eq_ok h
    have hacc := Memory.appendEvents_accepted hfind hrun events
    rw [← hexp] at hacc
    rw [hacc] at h ⊢
    exact ⟨r, hfind, hrun, hexp, (Except.ok.inj h).symm, rfl, fun id' ↦ Memory.find?_put _ _ _ _⟩
  · have htwice := Memory.appendEvents_twice h second
    cases hsecond : ((m.appendEvents id expected first).2.appendEvents id expected second).1 with
    | ok n' => exact absurd (htwice.mp ⟨n', hsecond⟩) hfirst
    | error e => rfl

/-- On a fresh run: an append at a stale position is refused and changes nothing, an append at the
run's position goes through, and a second append at that position is then refused. -/
theorem fresh_run_refuses_stale_append :
    (Call.appendEvents (Uuid.minted 0) 0 [.delivered 1]).refusal
        (Memory.empty.insertRun "coordinator" "pool" .null ⟨0, 0⟩).2 ≠ none ∧
      ((Call.appendEvents (Uuid.minted 0) 0 [.delivered 1]).run
        (Memory.empty.insertRun "coordinator" "pool" .null ⟨0, 0⟩).2).2 =
        (Memory.empty.insertRun "coordinator" "pool" .null ⟨0, 0⟩).2 ∧
      ((Memory.empty.insertRun "coordinator" "pool" .null ⟨0, 0⟩).2.appendEvents
        (Uuid.minted 0) 1 [.delivered 1]).1 = .ok 2 ∧
      [Event.delivered 1].length % 4294967296 ≠ 0 ∧
      (((Memory.empty.insertRun "coordinator" "pool" .null ⟨0, 0⟩).2.appendEvents
        (Uuid.minted 0) 1 [.delivered 1]).2.appendEvents (Uuid.minted 0) 1 [.delivered 1]).1.isOk =
        false := by
  have hstale : (Call.appendEvents (Uuid.minted 0) 0 [.delivered 1]).refusal
      (Memory.empty.insertRun "coordinator" "pool" .null ⟨0, 0⟩).2 ≠ none := by decide
  have hfirst : ((Memory.empty.insertRun "coordinator" "pool" .null ⟨0, 0⟩).2.appendEvents
      (Uuid.minted 0) 1 [.delivered 1]).1 = .ok 2 := rfl
  have hone : [Event.delivered 1].length % 4294967296 ≠ 0 := by decide
  exact ⟨hstale, ((calls_refused_atomically _).1 _).2 hstale, hfirst, hone,
    (calls_refused_atomically _).2.2 _ 1 [.delivered 1] [.delivered 1] hone 2 hfirst⟩

end SlotKeeper.Store
