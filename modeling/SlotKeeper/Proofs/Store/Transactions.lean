import SlotKeeper.Proofs.Store.Conversation

/-!
# Transactions of the SQL store

Each writing operation of the SQL store holds one transaction around a body of statements. This
module lists how each body can go, as one inductive shape per operation, with the checks made
before the writes and the failure that each refused statement or failed check gives:

* `Locked`: the lock on a run's row and the read of its next position;
* `Inserted`: events at consecutive positions, each position a signed 32-bit number;
* `Wrote` and `Started`: fixed writes, and the start of a run under a fresh id;
* `Appending`, `Closing` and `Continuing`: the bodies of an append, a close and a continuation.

Every body keeps the discipline `Plain`: no transaction control inside, nothing after a refused
statement, an answer only when every statement went through. The main statement,
`sql_store_transaction_discipline`, says that every writing operation, from every session, goes
as its shape allows, and spells out what an append and a continuation that answer said.
`append_at_last_position_crashes` appends at the last 32-bit position: the event goes in, and
the position after it overflows.
-/

namespace SlotKeeper.Store.Sql

open Json Workflow

/-! ### Locking a run -/

namespace Statement

/-- Locks the row of run `r`. -/
def lock (r : Uuid) : Statement := ⟨.lockRun, some [.uuid r]⟩

/-- Reads the position after the last event of run `r`. -/
def nextSeq (r : Uuid) : Statement := ⟨.nextSeq, some [.uuid r]⟩

/-- Inserts event `e` of run `r` at position `n`. -/
def newEvent (r : Uuid) (n : Int) (e : Event) : Statement :=
  ⟨.insertEvent, some [.uuid r, .int n, .text e.typeName, .json e.toJson]⟩

/-- Records run `r` as closed with `status`, for `reason`. -/
def close (r : Uuid) (status : Status) (reason : String) : Statement :=
  ⟨.markClosed, some [.uuid r, .text status.name, .text reason]⟩

/-- Inserts run `id` of a workflow, running from `startedAt` on `input`. -/
def newRun (id : Uuid) (workflow workflowType : String) (input : Json) (startedAt : Instant) :
    Statement :=
  ⟨.insertRun, some [.uuid id, .text workflow, .text workflowType, .json input, stored startedAt]⟩

end Statement

theorem Status.ofName?_eq_some {text : String} {status : Status}
    (h : Status.ofName? text = some status) : text = status.name := by
  unfold Status.ofName? at h
  have hname := List.find?_some h
  exact (beq_iff_eq.mp hname).symm

/-- A locked row that reads as the running run `info` of id `r`: the status is `running` and
each column read holds a value of its type. -/
structure RunningRow (r : Uuid) (row : List Value) (info : RunInfo) : Prop where
  run : info.run = r
  running : info.status = .running
  status : valueIn .lockRun row "status" = some (.text "running")
  workflow : valueIn .lockRun row "workflow_id" = some (.text info.workflow)
  workflowType : valueIn .lockRun row "workflow_type" = some (.text info.workflowType)
  input : valueIn .lockRun row "input" = some (.json info.input)
  startedAt : valueIn .lockRun row "started_at" = some (.timestamp info.startedAt)

/-- The failure of a query that has to return a row and returned none. -/
def noRowsText : String := "no rows returned by a query that expected to return at least one row"

/-- How locking run `r` can go, by the replies to the lock and to the read of its next
position: each failed check has its own failure, and a refused statement fails with the
database's text. -/
inductive Locked (r : Uuid) :
    List Exchange → Except String (Except StoreError (RunInfo × Int)) → Prop
  /-- The lock is refused. -/
  | refused {l : Outcome} {message : String} :
      l.answer = .error message → Locked r [(.lock r, l)] (.ok (.error (.database message)))
  /-- There is no such run. -/
  | missing {l : Outcome} :
      l.answer = .ok [] → Locked r [(.lock r, l)] (.ok (.error (.runNotFound r)))
  /-- The run's status is none of the names. -/
  | unknown {l : Outcome} {row : List Value} {rows : List (List Value)} {text : String} :
      l.answer = .ok (row :: rows) → valueIn .lockRun row "status" = some (.text text) →
      Status.ofName? text = none →
      Locked r [(.lock r, l)] (.ok (.error (.serialization ("unknown workflow status: " ++ text))))
  /-- The run is closed. -/
  | closed {l : Outcome} {row : List Value} {rows : List (List Value)} {status : Status} :
      l.answer = .ok (row :: rows) → valueIn .lockRun row "status" = some (.text status.name) →
      status.isRunning = false → Locked r [(.lock r, l)] (.ok (.error (.runClosed r status)))
  /-- The read of the next position is refused. -/
  | nextRefused {l n : Outcome} {row : List Value} {rows : List (List Value)} {info : RunInfo}
      {message : String} :
      l.answer = .ok (row :: rows) → RunningRow r row info → n.answer = .error message →
      Locked r [(.lock r, l), (.nextSeq r, n)] (.ok (.error (.database message)))
  /-- The read of the next position returns no row. -/
  | nextMissing {l n : Outcome} {row : List Value} {rows : List (List Value)} {info : RunInfo} :
      l.answer = .ok (row :: rows) → RunningRow r row info → n.answer = .ok [] →
      Locked r [(.lock r, l), (.nextSeq r, n)] (.ok (.error (.database noRowsText)))
  /-- The run is running and its next position is `next`. -/
  | locked {l n : Outcome} {row next : List Value} {rows nexts : List (List Value)}
      {info : RunInfo} {position : Int} :
      l.answer = .ok (row :: rows) → RunningRow r row info → n.answer = .ok (next :: nexts) →
      valueIn .nextSeq next "next_seq" = some (.int position) →
      Locked r [(.lock r, l), (.nextSeq r, n)] (.ok (.ok (info, position)))
  /-- A value read from a row is missing, `NULL` or of another type: a crash, once the lock and
  perhaps the read of the next position went through. -/
  | crashed {xs : List Exchange} {column : String} :
      xs.map Prod.fst <+: [.lock r, .nextSeq r] → (∀ x ∈ xs, x.2.refuses = false) →
      Locked r xs (.error (nullCrash column))

theorem Locked.crashed_row {r : Uuid} {l : Outcome} {rs : List (List Value)} {column : String}
    (hl : l.answer = .ok rs) : Locked r [(.lock r, l)] (.error (nullCrash column)) :=
  .crashed ⟨[.nextSeq r], rfl⟩ (by simp [Outcome.refuses_of_answer hl])

theorem Locked.crashed_next {r : Uuid} {l n : Outcome} {rs ns : List (List Value)}
    {column : String} (hl : l.answer = .ok rs) (hn : n.answer = .ok ns) :
    Locked r [(.lock r, l), (.nextSeq r, n)] (.error (nullCrash column)) :=
  .crashed (List.prefix_refl _)
    (by simp [Outcome.refuses_of_answer hl, Outcome.refuses_of_answer hn])

theorem lockRunning_spec {s : Session} (hs : s.reachable = true) (r : Uuid) :
    Says (lockRunning r) s fun xs o _ ↦ Locked r xs o := by
  unfold lockRunning
  refine .bind (.exec hs ?_)
  dsimp only
  cases hl : (s.reply .lockRun).answer with
  | error m => exact .pure (.refused hl)
  | ok rows =>
  cases rows with
  | nil => exact .pure (.missing hl)
  | cons row rows =>
  dsimp only [Except.mapError]
  refine .bind (.textCell (fun text ht ↦ ?_) (.crashed_row hl))
  dsimp only [Status.parse]
  cases hp : Status.ofName? text with
  | none => exact .pure (.unknown hl ht hp)
  | some status =>
  have htext := Status.ofName?_eq_some hp
  dsimp only
  cases hrun : status.isRunning
  case false =>
    rw [if_pos (by decide)]
    exact .pure (.closed hl (htext ▸ ht) hrun)
  case true =>
  rw [if_neg (by decide)]
  have hstatus : status = .running := by cases status <;> first | rfl | cases hrun
  subst hstatus
  refine .bind (.textCell (fun workflow hw ↦ ?_) (.crashed_row hl))
  refine .bind (.textCell (fun workflowType hty ↦ ?_) (.crashed_row hl))
  refine .bind (.jsonCell (fun input hin ↦ ?_) (.crashed_row hl))
  refine .bind (.timeCell (fun startedAt hat ↦ ?_) (.crashed_row hl))
  have hrow : RunningRow r row ⟨workflow, r, workflowType, .running, input, startedAt⟩ :=
    ⟨rfl, rfl, by rw [ht, htext]; rfl, hw, hty, hin, hat⟩
  refine .bind (.exec (by simp [hs]) ?_)
  dsimp only
  cases hn : ((s.receive ⟨.lockRun, some [.uuid r]⟩).reply .nextSeq).answer with
  | error m => exact .pure (.nextRefused hl hrow hn)
  | ok nexts =>
  cases nexts with
  | nil => exact .pure (.nextMissing hl hrow hn)
  | cons next nexts =>
  dsimp only [Except.mapError]
  exact .bind (.intCell (fun n hpos ↦ .pure (.locked hl hrow hn hpos)) (.crashed_next hl hn))

/-! ### Writing -/

section Writes

variable {s : Session}

theorem insertEvent_spec {Q : List Exchange → Except String (Except StoreError Unit) → Session → Prop}
    (hs : s.reachable = true) {r : Uuid} {n : Int} {e : Event}
    (h : Q [(.newEvent r n e, s.reply .insertEvent)]
      (.ok (((s.reply .insertEvent).answer.mapError .database).map fun _ ↦ ()))
      (s.receive (.newEvent r n e))) :
    Says (insertEvent r n e) s Q := by
  unfold insertEvent
  exact .bind (.exec hs (.pure h))

theorem markClosed_spec {Q : List Exchange → Except String (Except StoreError Unit) → Session → Prop}
    (hs : s.reachable = true) {r : Uuid} {status : Status} {reason : String}
    (h : Q [(.close r status reason, s.reply .markClosed)]
      (.ok (((s.reply .markClosed).answer.mapError .database).map fun _ ↦ ()))
      (s.receive (.close r status reason))) :
    Says (markClosed r status reason) s Q := by
  unfold markClosed
  exact .bind (.exec hs (.pure h))

end Writes

/-- The largest signed 32-bit number: positions are stored as such. -/
def maxPosition : Int := 2147483647

/-- How inserting events at consecutive positions from `next` can go: each event goes in at its
position unless refused, and the answer is the position after the last. Positions are signed
32-bit numbers: an event that goes in where the following position would overflow is followed by
a crash. -/
inductive Inserted (r : Uuid) : Int → List Event → List Exchange →
    Except String (Except StoreError Int) → Prop
  | done (next : Int) : Inserted r next [] [] (.ok (.ok next))
  | refused {next : Int} {e : Event} {es : List Event} {reply : Outcome} {message : String} :
      reply.answer = .error message →
      Inserted r next (e :: es) [(.newEvent r next e, reply)] (.ok (.error (.database message)))
  | overflow {next : Int} {e : Event} {es : List Event} {reply : Outcome} :
      reply.refuses = false → (next + 1 > maxPosition ∨ next + 1 < -maxPosition - 1) →
      Inserted r next (e :: es) [(.newEvent r next e, reply)] (.error "attempt to add with overflow")
  | next {next : Int} {e : Event} {es : List Event} {reply : Outcome} {xs : List Exchange}
      {o : Except String (Except StoreError Int)} :
      reply.refuses = false → -maxPosition - 1 ≤ next + 1 → next + 1 ≤ maxPosition →
      Inserted r (next + 1) es xs o →
      Inserted r next (e :: es) ((.newEvent r next e, reply) :: xs) o

/-- The insertion loop says what `Inserted` allows; the induction follows the events. -/
theorem insertEvents_spec (r : Uuid) (es : List Event) :
    ∀ (next : Int) (s : Session), s.reachable = true →
      Says (insertEvents r next es) s fun xs o _ ↦ Inserted r next es xs o := by
  induction es with
  | nil =>
    intro next s _
    exact .pure (.done next)
  | cons e es ih =>
    intro next s hs
    unfold insertEvents
    refine .bind (insertEvent_spec hs ?_)
    dsimp only
    cases hr : (s.reply .insertEvent).answer with
    | error m => exact .pure (.refused hr)
    | ok _ =>
    have hwent := Outcome.refuses_of_answer hr
    dsimp only [Except.mapError, Except.map]
    unfold addI32
    by_cases hover : next + 1 > 2147483647 ∨ next + 1 < -2147483648
    · rw [if_pos hover]
      exact .bind (.throw (.overflow hwent hover))
    · rw [if_neg hover]
      refine .bind (.pure ((ih (next + 1) _ (by simp [hs])).mono fun xs o _ _ h ↦ ?_))
      exact .next hwent (by unfold maxPosition; omega) (by unfold maxPosition; omega) h

/-- How a fixed sequence of writes can go: each goes through, or the first refused one ends the
sequence with the database's failure. -/
inductive Wrote : List Statement → List Exchange → Except StoreError Unit → Prop
  | done : Wrote [] [] (.ok ())
  | refused {st : Statement} {sts : List Statement} {reply : Outcome} {message : String} :
      reply.answer = .error message → Wrote (st :: sts) [(st, reply)] (.error (.database message))
  | next {st : Statement} {sts : List Statement} {reply : Outcome} {xs : List Exchange}
      {res : Except StoreError Unit} :
      reply.refuses = false → Wrote sts xs res → Wrote (st :: sts) ((st, reply) :: xs) res

/-- A single write goes through or is refused. -/
theorem Wrote.single (st : Statement) (reply : Outcome) :
    Wrote [st] [(st, reply)] ((reply.answer.mapError .database).map fun _ ↦ ()) := by
  cases h : reply.answer with
  | error m => exact .refused h
  | ok _ => exact .next (Outcome.refuses_of_answer h) .done

/-- The run a fresh start describes. -/
def startedRun (id : Uuid) (workflow workflowType : String) (input : Json) (startedAt : Instant) :
    RunInfo :=
  ⟨workflow, id, workflowType, .running, input, startedAt⟩

/-- How inserting run `id` and its start event can go. A unique violation on the run means the
workflow already has a running run, named with the id that was being inserted; any other refusal
is the database's failure. -/
inductive Started (id : Uuid) (workflow workflowType : String) (input : Json)
    (startedAt : Instant) : List Exchange → Except String (Except StoreError RunInfo) → Prop
  | active {reply : Outcome} {message : String} :
      reply = .failed "23505" message →
      Started id workflow workflowType input startedAt
        [(.newRun id workflow workflowType input startedAt, reply)]
        (.ok (.error (.runAlreadyActive workflow id)))
  | refused {reply : Outcome} {code message : String} :
      reply = .failed code message → code ≠ "23505" →
      Started id workflow workflowType input startedAt
        [(.newRun id workflow workflowType input startedAt, reply)]
        (.ok (.error (.database ("error returned from database: " ++ message))))
  | inserted {reply : Outcome} {xs : List Exchange} {res : Except StoreError Unit} :
      reply.refuses = false → Wrote [.newEvent id 0 (.started input startedAt)] xs res →
      Started id workflow workflowType input startedAt
        ((.newRun id workflow workflowType input startedAt, reply) :: xs)
        (.ok (res.map fun () ↦ startedRun id workflow workflowType input startedAt))

theorem insertRun_spec {s : Session} (hs : s.reachable = true) (workflow workflowType : String)
    (input : Json) (startedAt : Instant) :
    Says (insertRun workflow workflowType input startedAt) s fun xs o _ ↦
      Started (Uuid.minted s.minted) workflow workflowType input startedAt xs o := by
  unfold insertRun
  refine .get (.mint (.get ?_))
  dsimp only
  rw [if_neg (by simp [hs])]
  refine .logged (by simp [hs]) ?_
  generalize hmint : ({ s with minted := s.minted + 1 } : Session) = s₁
  have hs₁ : (s₁.receive (.newRun (Uuid.minted s.minted) workflow workflowType input
      startedAt)).reachable = true := by
    rw [Session.receive_reachable, ← hmint]
    exact hs
  cases hrun : s₁.reply .insertRun with
  | failed code message =>
    dsimp only
    by_cases hactive : code = "23505"
    · subst hactive
      exact .pure (.active rfl)
    · rw [if_neg (by simpa using hactive)]
      exact .pure (.refused rfl hactive)
  | _ =>
    refine .bind (insertEvent_spec hs₁ ?_)
    dsimp only
    cases hev : ((s₁.receive (.newRun (Uuid.minted s.minted) workflow workflowType input
      startedAt)).reply .insertEvent).answer with
    | error m => exact .pure (.inserted rfl (.refused hev))
    | ok _ => exact .pure (.inserted rfl (.next (Outcome.refuses_of_answer hev) .done))

/-! ### The writing operations -/

/-- How the body of an append to run `r` can go: the lock; a conflict unless the run's next
position is `expected`; then the events at consecutive positions from there. -/
inductive Appending (r : Uuid) (expected : Int) (es : List Event) :
    List Exchange → Except String (Except StoreError Int) → Prop
  | unlocked {xs : List Exchange} {e : StoreError} :
      Locked r xs (.ok (.error e)) → Appending r expected es xs (.ok (.error e))
  | lockCrashed {xs : List Exchange} {c : String} :
      Locked r xs (.error c) → Appending r expected es xs (.error c)
  | conflict {xs : List Exchange} {info : RunInfo} {next : Int} :
      Locked r xs (.ok (.ok (info, next))) → next ≠ expected →
      Appending r expected es xs (.ok (.error (.conflict expected next)))
  | inserting {xs ys : List Exchange} {info : RunInfo} {o : Except String (Except StoreError Int)} :
      Locked r xs (.ok (.ok (info, expected))) → Inserted r expected es ys o →
      Appending r expected es (xs ++ ys) o

theorem appendEvents_spec (s : Session) (r : Uuid) (expected : Int) (es : List Event) :
    Says (appendEvents r expected es) s fun xs o _ ↦ Transacted (Appending r expected es) xs o := by
  refine transaction_spec s fun s' hs' _ ↦ ?_
  refine .bind ((lockRunning_spec hs' r).mono fun xs o s₁ ht hlock ↦ ?_)
  have hs₁ : s₁.reachable = true := by rw [ht.reachable, hs']
  rcases o with c | e | ⟨info, next⟩
  · exact .lockCrashed hlock
  · exact .pure (by rw [List.append_nil]; exact .unlocked hlock)
  · dsimp only
    by_cases hnext : next = expected
    · subst hnext
      rw [if_neg (by simp)]
      exact (insertEvents_spec r es next s₁ hs₁).mono fun ys o _ _ h ↦ .inserting hlock h
    · rw [if_pos (by simpa using hnext)]
      exact .pure (by rw [List.append_nil]; exact .conflict hlock hnext)

/-- The writes that close run `r` at position `next`: the event recording why, for a
cancellation or a termination, then the status. -/
def closingWrites (r : Uuid) (next : Int) (status : Status) (reason : String) : List Statement :=
  (closingEvent status reason).toList.map (.newEvent r next) ++ [.close r status reason]

/-- How the body of a close of run `r` can go: the lock, then the closing writes. -/
inductive Closing (r : Uuid) (status : Status) (reason : String) :
    List Exchange → Except String (Except StoreError Unit) → Prop
  | unlocked {xs : List Exchange} {e : StoreError} :
      Locked r xs (.ok (.error e)) → Closing r status reason xs (.ok (.error e))
  | lockCrashed {xs : List Exchange} {c : String} :
      Locked r xs (.error c) → Closing r status reason xs (.error c)
  | writing {xs ys : List Exchange} {info : RunInfo} {next : Int} {res : Except StoreError Unit} :
      Locked r xs (.ok (.ok (info, next))) → Wrote (closingWrites r next status reason) ys res →
      Closing r status reason (xs ++ ys) (.ok res)

theorem closeRun_spec (s : Session) (r : Uuid) (status : Status) (reason : String) :
    Says (closeRun r status reason) s fun xs o _ ↦ Transacted (Closing r status reason) xs o := by
  refine transaction_spec s fun s' hs' _ ↦ ?_
  refine .bind ((lockRunning_spec hs' r).mono fun xs o s₁ ht hlock ↦ ?_)
  have hs₁ : s₁.reachable = true := by rw [ht.reachable, hs']
  rcases o with c | e | ⟨info, next⟩
  · exact .lockCrashed hlock
  · exact .pure (by rw [List.append_nil]; exact .unlocked hlock)
  dsimp only
  -- a cancellation or a termination records its event before the status
  cases hev : closingEvent status reason with
  | none =>
    refine .bind (.pure (markClosed_spec hs₁ ?_))
    refine .writing hlock ?_
    simp only [closingWrites, hev, Option.toList, List.map_nil, List.nil_append]
    exact .single _ _
  | some e =>
    refine .bind (insertEvent_spec hs₁ ?_)
    dsimp only
    cases hr : (s₁.reply .insertEvent).answer with
    | error m =>
      refine .pure (.writing hlock ?_)
      simp only [closingWrites, hev, Option.toList, List.map_cons, List.map_nil, List.cons_append,
        List.nil_append]
      exact .refused hr
    | ok _ =>
      refine markClosed_spec (by simp [hs₁]) (.writing hlock ?_)
      simp only [closingWrites, hev, Option.toList, List.map_cons, List.map_nil, List.cons_append,
        List.nil_append]
      exact .next (Outcome.refuses_of_answer hr) (.single _ _)

/-- The writes that hand run `r` over to its successor: the continuation event at position
`next`, then the status. -/
def handoverWrites (r : Uuid) (next : Int) (snapshot : Json) : List Statement :=
  [.newEvent r next (.continued snapshot), .close r .continuedAsNew "continued as new"]

/-- How the body of a continuation of run `r` can go: the lock, the handover writes, then the
start of the successor under a fresh id, with the workflow and type of the locked run. -/
inductive Continuing (r : Uuid) (snapshot : Json) (startedAt : Instant) :
    List Exchange → Except String (Except StoreError RunInfo) → Prop
  | unlocked {xs : List Exchange} {e : StoreError} :
      Locked r xs (.ok (.error e)) → Continuing r snapshot startedAt xs (.ok (.error e))
  | lockCrashed {xs : List Exchange} {c : String} :
      Locked r xs (.error c) → Continuing r snapshot startedAt xs (.error c)
  | handoverRefused {xs ys : List Exchange} {info : RunInfo} {next : Int} {e : StoreError} :
      Locked r xs (.ok (.ok (info, next))) → Wrote (handoverWrites r next snapshot) ys (.error e) →
      Continuing r snapshot startedAt (xs ++ ys) (.ok (.error e))
  | starting {xs ys zs : List Exchange} {info : RunInfo} {next : Int} {id : Uuid}
      {o : Except String (Except StoreError RunInfo)} :
      Locked r xs (.ok (.ok (info, next))) → Wrote (handoverWrites r next snapshot) ys (.ok ()) →
      Started id info.workflow info.workflowType snapshot startedAt zs o →
      Continuing r snapshot startedAt (xs ++ ys ++ zs) o

theorem continueAsNew_spec (s : Session) (r : Uuid) (snapshot : Json) (startedAt : Instant) :
    Says (continueAsNew r snapshot startedAt) s fun xs o _ ↦
      Transacted (Continuing r snapshot startedAt) xs o := by
  refine transaction_spec s fun s' hs' _ ↦ ?_
  refine .bind ((lockRunning_spec hs' r).mono fun xs o s₁ ht hlock ↦ ?_)
  have hs₁ : s₁.reachable = true := by rw [ht.reachable, hs']
  rcases o with c | e | ⟨info, next⟩
  · exact .lockCrashed hlock
  · exact .pure (by rw [List.append_nil]; exact .unlocked hlock)
  dsimp only
  refine .bind (insertEvent_spec hs₁ ?_)
  dsimp only
  cases hr : (s₁.reply .insertEvent).answer with
  | error m => exact .pure (by rw [List.append_nil]; exact .handoverRefused hlock (.refused hr))
  | ok _ =>
  have hwent := Outcome.refuses_of_answer hr
  refine .bind (markClosed_spec (by simp [hs₁]) ?_)
  dsimp only
  cases hc : ((s₁.receive (.newEvent r next (.continued snapshot))).reply .markClosed).answer with
  | error m =>
    refine .pure ?_
    simp only [List.append_nil, List.singleton_append]
    exact .handoverRefused hlock (.next hwent (.refused hc))
  | ok _ =>
  refine (insertRun_spec (by simp [hs₁]) _ _ _ _).mono fun zs o _ _ h ↦ ?_
  have hstart :=
    Continuing.starting hlock (.next hwent (.next (Outcome.refuses_of_answer hc) .done)) h
  simp only [List.append_assoc, List.cons_append, List.nil_append] at hstart
  exact hstart

/-! ### Bodies stop at their first refusal -/

/-- Whether a statement of this kind begins, commits or rolls back a transaction. -/
def Kind.controls : Kind → Bool
  | .begin | .commit | .rollback => true
  | _ => false

/-- The discipline of a transaction body that said `xs` and ended with `o`: it neither begins,
commits nor rolls back; nothing follows a refused statement; and it answers only when every
statement went through. -/
structure Plain {α : Type} (xs : List Exchange) (o : Except String (Except StoreError α)) :
    Prop where
  inside : ∀ x ∈ xs, x.1.kind.controls = false
  stops : ∀ x ∈ xs.dropLast, x.2.refuses = false
  through : ∀ a, o = .ok (.ok a) → ∀ x ∈ xs, x.2.refuses = false

/-- Exchanges of a body that all went through. -/
def WentThrough (xs : List Exchange) : Prop :=
  ∀ x ∈ xs, x.1.kind.controls = false ∧ x.2.refuses = false

section Plain

variable {α β : Type} {xs ys : List Exchange} {o : Except String (Except StoreError α)}

theorem WentThrough.append (h₁ : WentThrough xs) (h₂ : WentThrough ys) :
    WentThrough (xs ++ ys) := by
  intro x hx
  rcases List.mem_append.mp hx with hx | hx
  · exact h₁ x hx
  · exact h₂ x hx

/-- What went through before a body's rest leaves its discipline intact. -/
theorem Plain.append (hxs : WentThrough xs) (h : Plain ys o) : Plain (xs ++ ys) o where
  inside x hx := by
    rcases List.mem_append.mp hx with hx | hx
    · exact (hxs x hx).1
    · exact h.inside x hx
  stops x hx := by
    rw [List.dropLast_append] at hx
    split at hx
    · exact (hxs x ((List.dropLast_sublist xs).subset hx)).2
    · rcases List.mem_append.mp hx with hx | hx
      · exact (hxs x hx).2
      · exact h.stops x hx
  through a ha x hx := by
    rcases List.mem_append.mp hx with hx | hx
    · exact (hxs x hx).2
    · exact h.through a ha x hx

/-- A body that does not answer keeps its discipline whatever its answer's type. -/
theorem Plain.failure {o' : Except String (Except StoreError β)} (h : Plain xs o)
    (ho' : ∀ b, o' ≠ .ok (.ok b)) : Plain xs o' :=
  ⟨h.inside, h.stops, fun b hb ↦ absurd hb (ho' b)⟩

theorem Plain.map {res : Except StoreError α} (f : α → β) (h : Plain xs (.ok res)) :
    Plain xs (.ok (res.map f)) := by
  refine ⟨h.inside, h.stops, fun b hb ↦ ?_⟩
  cases res with
  | error => cases hb
  | ok a => exact h.through a rfl

theorem WentThrough.single {x : Exchange} (hk : x.1.kind.controls = false)
    (hr : x.2.refuses = false) : WentThrough [x] := by
  simp [WentThrough, hk, hr]

theorem WentThrough.plain (h : WentThrough xs) : Plain xs o :=
  ⟨fun x hx ↦ (h x hx).1, fun x hx ↦ (h x ((List.dropLast_sublist xs).subset hx)).2,
    fun _ _ x hx ↦ (h x hx).2⟩

/-- A single exchange that does not answer. -/
theorem Plain.single {x : Exchange} (hx : x.1.kind.controls = false)
    (ho : ∀ a, o ≠ .ok (.ok a)) : Plain [x] o :=
  ⟨by simpa using hx, by simp, fun a ha ↦ absurd ha (ho a)⟩

end Plain

/-- Locking says the lock and at most the read of the next position. -/
theorem Locked.statements {r : Uuid} {xs : List Exchange}
    {o : Except String (Except StoreError (RunInfo × Int))} (h : Locked r xs o) :
    xs.map Prod.fst <+: [.lock r, .nextSeq r] := by
  cases h
  case crashed hpre _ => exact hpre
  all_goals first | exact ⟨[.nextSeq r], rfl⟩ | exact List.prefix_refl _

/-- A lock that found the running run went through. -/
theorem Locked.wentThrough {r : Uuid} {xs : List Exchange} {p : RunInfo × Int}
    (h : Locked r xs (.ok (.ok p))) : WentThrough xs := by
  cases h
  case locked hl _ hn _ =>
    exact (WentThrough.single rfl (Outcome.refuses_of_answer hl)).append
      (.single rfl (Outcome.refuses_of_answer hn))

theorem Locked.plain {r : Uuid} {xs : List Exchange}
    {o : Except String (Except StoreError (RunInfo × Int))} (h : Locked r xs o) : Plain xs o := by
  cases h
  case locked hl _ hn _ =>
    exact ((WentThrough.single rfl (Outcome.refuses_of_answer hl)).append
      (.single rfl (Outcome.refuses_of_answer hn))).plain
  case nextRefused hl _ _ | nextMissing hl _ _ =>
    exact .append (.single rfl (Outcome.refuses_of_answer hl)) (.single rfl fun _ h ↦ by cases h)
  case crashed hpre hall =>
    refine ⟨fun x hx ↦ ?_, fun x hx ↦ hall x ((List.dropLast_sublist _).subset hx),
      fun _ h ↦ by cases h⟩
    have hmem := hpre.subset (List.mem_map_of_mem hx)
    simp only [List.mem_cons, List.not_mem_nil, or_false] at hmem
    rcases hmem with h | h <;> rw [h] <;> rfl
  all_goals exact .single rfl fun _ h ↦ by cases h

/-- The inserts of events `es` of run `r` at consecutive positions from `next`. -/
def insertsFrom (r : Uuid) : Int → List Event → List Statement
  | _, [] => []
  | next, e :: es => .newEvent r next e :: insertsFrom r (next + 1) es

theorem Inserted.plain {r : Uuid} {next : Int} {es : List Event} {xs : List Exchange}
    {o : Except String (Except StoreError Int)} (h : Inserted r next es xs o) : Plain xs o := by
  induction h with
  | done => exact WentThrough.plain (by simp [WentThrough])
  | refused => exact .single rfl fun _ h ↦ by cases h
  | overflow => exact .single rfl fun _ h ↦ by cases h
  | next hwent _ _ _ ih => exact .append (.single rfl hwent) ih

/-- An insertion that answers put every event in, at consecutive positions from `next`, and
answers the position after the last, which fits in a signed 32-bit number. -/
theorem Inserted.answer {r : Uuid} {next : Int} {es : List Event} {xs : List Exchange}
    {o : Except String (Except StoreError Int)} (h : Inserted r next es xs o) :
    ∀ m, o = .ok (.ok m) → xs.map Prod.fst = insertsFrom r next es ∧ m = next + es.length ∧
      (es ≠ [] → m ≤ maxPosition) := by
  induction h with
  | done next =>
    intro m hm
    cases hm
    simp [insertsFrom]
  | refused => intro m hm; cases hm
  | overflow => intro m hm; cases hm
  | @next next e es _ _ _ _ _ hfits hrest ih =>
    intro m hm
    obtain ⟨hxs, hm, hfit⟩ := ih m hm
    refine ⟨by simp [insertsFrom, hxs], by simp only [List.length_cons]; omega, fun _ ↦ ?_⟩
    -- the last position was checked when it was reached
    cases es with
    | nil =>
      simp only [List.length_nil] at hm
      omega
    | cons => exact hfit (List.cons_ne_nil _ _)

/-- A sequence of writes says a prefix of them, stopping at the first refusal. -/
theorem Wrote.plain {sts : List Statement} {xs : List Exchange} {res : Except StoreError Unit}
    (hsts : ∀ st ∈ sts, st.kind.controls = false) (h : Wrote sts xs res) :
    Plain xs (.ok res : Except String (Except StoreError Unit)) := by
  induction h with
  | done => exact WentThrough.plain (by simp [WentThrough])
  | refused => exact .single (hsts _ (by simp)) fun _ h ↦ by cases h
  | next hwent _ ih =>
    exact .append (.single (hsts _ (by simp)) hwent) (ih fun st hst ↦ hsts st (by simp [hst]))

/-- Writes that all went through said exactly the writes. -/
theorem Wrote.wentThrough {sts : List Statement} {xs : List Exchange} {res : Except StoreError Unit}
    (hsts : ∀ st ∈ sts, st.kind.controls = false) (h : Wrote sts xs res) (hres : res = .ok ()) :
    WentThrough xs ∧ xs.map Prod.fst = sts := by
  induction h with
  | done => simp [WentThrough]
  | refused => cases hres
  | next hwent _ ih =>
    obtain ⟨hxs, hmap⟩ := ih (fun st hst ↦ hsts st (by simp [hst])) hres
    exact ⟨(WentThrough.single (hsts _ (by simp)) hwent).append hxs, by simp [hmap]⟩

theorem Started.plain {id : Uuid} {workflow workflowType : String} {input : Json}
    {startedAt : Instant} {xs : List Exchange} {o : Except String (Except StoreError RunInfo)}
    (h : Started id workflow workflowType input startedAt xs o) : Plain xs o := by
  cases h
  case inserted hrun hw =>
    exact .append (.single rfl hrun) (.map _ (hw.plain (by simp [Statement.newEvent, Kind.controls])))
  all_goals exact .single rfl fun _ h ↦ by cases h

theorem Appending.plain {r : Uuid} {expected : Int} {es : List Event} {xs : List Exchange}
    {o : Except String (Except StoreError Int)} (h : Appending r expected es xs o) : Plain xs o := by
  cases h
  case unlocked hlock => exact hlock.plain.failure fun _ h ↦ by cases h
  case lockCrashed hlock => exact hlock.plain.failure fun _ h ↦ by cases h
  case conflict hne hlock => exact hlock.plain.failure fun _ h ↦ by cases h
  case inserting hlock hins => exact .append hlock.wentThrough hins.plain

theorem closingWrites_inside (r : Uuid) (next : Int) (status : Status) (reason : String) :
    ∀ st ∈ closingWrites r next status reason, st.kind.controls = false := by
  intro st hst
  simp only [closingWrites, List.mem_append, List.mem_map, List.mem_cons, List.not_mem_nil,
    or_false] at hst
  rcases hst with ⟨_, _, rfl⟩ | rfl <;> rfl

theorem handoverWrites_inside (r : Uuid) (next : Int) (snapshot : Json) :
    ∀ st ∈ handoverWrites r next snapshot, st.kind.controls = false := by
  intro st hst
  simp only [handoverWrites, List.mem_cons, List.not_mem_nil, or_false] at hst
  rcases hst with rfl | rfl <;> rfl

theorem Closing.plain {r : Uuid} {status : Status} {reason : String} {xs : List Exchange}
    {o : Except String (Except StoreError Unit)} (h : Closing r status reason xs o) : Plain xs o := by
  cases h
  case unlocked hlock => exact hlock.plain.failure fun _ h ↦ by cases h
  case lockCrashed hlock => exact hlock.plain.failure fun _ h ↦ by cases h
  case writing hlock hw => exact .append hlock.wentThrough (hw.plain (closingWrites_inside _ _ _ _))

theorem Continuing.plain {r : Uuid} {snapshot : Json} {startedAt : Instant} {xs : List Exchange}
    {o : Except String (Except StoreError RunInfo)} (h : Continuing r snapshot startedAt xs o) :
    Plain xs o := by
  cases h
  case unlocked hlock => exact hlock.plain.failure fun _ h ↦ by cases h
  case lockCrashed hlock => exact hlock.plain.failure fun _ h ↦ by cases h
  case handoverRefused hlock hw =>
    exact .append hlock.wentThrough
      ((hw.plain (handoverWrites_inside _ _ _)).failure fun _ h ↦ by cases h)
  case starting hlock hw hstart =>
    exact .append (hlock.wentThrough.append (hw.wentThrough (handoverWrites_inside _ _ _) rfl).1)
      hstart.plain

/-! ### What answers say -/

theorem Transacted.mono {α : Type} {Body Body' : List Exchange → Except String (Except StoreError α) → Prop}
    {xs : List Exchange} {o : Except String (Except StoreError α)} (h : Transacted Body xs o)
    (hb : ∀ ys o', Body ys o' → Body' ys o') : Transacted Body' xs o := by
  cases h
  case unreachable => exact .unreachable
  case unbegun hb' => exact .unbegun hb'
  case committed hbegin hbody hc => exact .committed hbegin (hb _ _ hbody) hc
  case commitRefused hbegin hbody hc => exact .commitRefused hbegin (hb _ _ hbody) hc
  case rolledBack hbegin hbody hno => exact .rolledBack hbegin (hb _ _ hbody) hno

/-- A transaction that answers began, ran a body that answered, and committed. -/
theorem Transacted.answered {α : Type} {Body : List Exchange → Except String (Except StoreError α) → Prop}
    {xs : List Exchange} {a : α} (h : Transacted Body xs (.ok (.ok a))) :
    ∃ b ys c, xs = (⟨.begin, none⟩, b) :: ys ++ [(⟨.commit, none⟩, c)] ∧ Body ys (.ok (.ok a)) := by
  match h with
  | .committed _ hbody _ => exact ⟨_, _, _, rfl, hbody⟩
  | .rolledBack _ _ hno => exact absurd rfl (hno a)

/-- A lock that answers found the run's row, running, and read its next position. -/
theorem Locked.answered {r : Uuid} {xs : List Exchange} {info : RunInfo} {next : Int}
    (h : Locked r xs (.ok (.ok (info, next)))) :
    xs.map Prod.fst = [.lock r, .nextSeq r] ∧ ∃ row, RunningRow r row info := by
  match h with
  | .locked _ hrow _ _ => exact ⟨rfl, _, hrow⟩

theorem Appending.answered {r : Uuid} {expected : Int} {es : List Event} {xs : List Exchange}
    {m : Int} (h : Appending r expected es xs (.ok (.ok m))) :
    xs.map Prod.fst = .lock r :: .nextSeq r :: insertsFrom r expected es ∧
      m = expected + es.length ∧ (es ≠ [] → m ≤ maxPosition) := by
  cases h
  case inserting hlock hins =>
    obtain ⟨hmap, hm, hfit⟩ := hins.answer m rfl
    refine ⟨?_, hm, hfit⟩
    rw [List.map_append, hlock.answered.1, hmap]
    rfl

theorem Started.answered {id : Uuid} {workflow workflowType : String} {input : Json}
    {startedAt : Instant} {xs : List Exchange} {info : RunInfo}
    (h : Started id workflow workflowType input startedAt xs (.ok (.ok info))) :
    xs.map Prod.fst = [.newRun id workflow workflowType input startedAt,
      .newEvent id 0 (.started input startedAt)] ∧
      info = startedRun id workflow workflowType input startedAt := by
  generalize ho : (Except.ok (.ok info) : Except String (Except StoreError RunInfo)) = o at h
  cases h
  case active => cases ho
  case refused => cases ho
  case inserted res _ hw =>
    cases res with
    | error => cases ho
    | ok =>
      cases ho
      refine ⟨?_, rfl⟩
      have hmap := (hw.wentThrough (by simp [Statement.newEvent, Kind.controls]) rfl).2
      simp [hmap]

theorem Continuing.answered {r : Uuid} {snapshot : Json} {startedAt : Instant}
    {xs : List Exchange} {info : RunInfo}
    (h : Continuing r snapshot startedAt xs (.ok (.ok info))) :
    ∃ next id workflow workflowType,
      xs.map Prod.fst = .lock r :: .nextSeq r :: handoverWrites r next snapshot ++
        [.newRun id workflow workflowType snapshot startedAt,
          .newEvent id 0 (.started snapshot startedAt)] ∧
      info = startedRun id workflow workflowType snapshot startedAt := by
  generalize ho : (Except.ok (.ok info) : Except String (Except StoreError RunInfo)) = o at h
  cases h
  case unlocked => cases ho
  case lockCrashed => cases ho
  case handoverRefused => cases ho
  case starting hlock hw hstart =>
    subst ho
    obtain ⟨hmap, hinfo⟩ := hstart.answered
    have hys := (hw.wentThrough (handoverWrites_inside _ _ _) rfl).2
    refine ⟨?_, _, _, _, ?_, hinfo⟩
    rotate_left
    rw [List.map_append, List.map_append, hlock.answered.1, hys, hmap]
    rfl

theorem startRun_spec (s : Session) (workflow workflowType : String) (input : Json)
    (startedAt : Instant) :
    Says (startRun workflow workflowType input startedAt) s fun xs o _ ↦
      Transacted (Started (Uuid.minted s.minted) workflow workflowType input startedAt) xs o := by
  refine transaction_spec s fun s' hs' hmint ↦ ?_
  rw [← hmint]
  exact insertRun_spec hs' workflow workflowType input startedAt

/-! ### The discipline of the writing operations -/

/-- The writing operations of the SQL store, run from any session `s`. Each holds one
transaction (`Transacted`): it begins, and commits only a body that answered, rolling back after
a failure, a crash or a refused commit. The body never begins, commits or rolls back, says
nothing after a refused statement and answers only when every statement went through (`Plain`).
Its statements and failures are the ones its shape lists: a start inserts the run under the next
minted id and then its start event (`Started`); an append, a continuation and a close first lock
the run, and write nothing unless it is running (and, for an append, at the expected position)
(`Appending`, `Continuing`, `Closing`). An append that answers inserted its events at
consecutive positions from the expected one and answers the position after the last, which fits
in a signed 32-bit number; a continuation that answers wrote its continuation event and closed
the run before inserting the successor and its start event. -/
structure KeepsTransactions (s : Session) : Prop where
  starts : ∀ workflow workflowType input startedAt,
    Says (startRun workflow workflowType input startedAt) s fun xs o _ ↦
      Transacted (fun ys o' ↦ Plain ys o' ∧
        Started (Uuid.minted s.minted) workflow workflowType input startedAt ys o') xs o
  appends : ∀ r expected es,
    Says (appendEvents r expected es) s fun xs o _ ↦
      Transacted (fun ys o' ↦ Plain ys o' ∧ Appending r expected es ys o') xs o
  continues : ∀ r snapshot startedAt,
    Says (continueAsNew r snapshot startedAt) s fun xs o _ ↦
      Transacted (fun ys o' ↦ Plain ys o' ∧ Continuing r snapshot startedAt ys o') xs o
  closes : ∀ r status reason,
    Says (closeRun r status reason) s fun xs o _ ↦
      Transacted (fun ys o' ↦ Plain ys o' ∧ Closing r status reason ys o') xs o
  appended : ∀ r expected es,
    Says (appendEvents r expected es) s fun xs o _ ↦ ∀ m, o = .ok (.ok m) →
      xs.map Prod.fst = ⟨.begin, none⟩ :: .lock r :: .nextSeq r ::
        (insertsFrom r expected es ++ [⟨.commit, none⟩]) ∧
      m = expected + es.length ∧ (es ≠ [] → m ≤ maxPosition)
  continued : ∀ r snapshot startedAt,
    Says (continueAsNew r snapshot startedAt) s fun xs o _ ↦ ∀ info, o = .ok (.ok info) →
      ∃ next id workflow workflowType,
        xs.map Prod.fst = ⟨.begin, none⟩ :: .lock r :: .nextSeq r ::
          (handoverWrites r next snapshot ++ [.newRun id workflow workflowType snapshot startedAt,
            .newEvent id 0 (.started snapshot startedAt), ⟨.commit, none⟩]) ∧
        info = startedRun id workflow workflowType snapshot startedAt

theorem sql_store_transaction_discipline (s : Session) : KeepsTransactions s where
  starts workflow workflowType input startedAt :=
    (startRun_spec s workflow workflowType input startedAt).mono fun _ _ _ _ h ↦
      h.mono fun _ _ hb ↦ ⟨hb.plain, hb⟩
  appends r expected es :=
    (appendEvents_spec s r expected es).mono fun _ _ _ _ h ↦ h.mono fun _ _ hb ↦ ⟨hb.plain, hb⟩
  continues r snapshot startedAt :=
    (continueAsNew_spec s r snapshot startedAt).mono fun _ _ _ _ h ↦
      h.mono fun _ _ hb ↦ ⟨hb.plain, hb⟩
  closes r status reason :=
    (closeRun_spec s r status reason).mono fun _ _ _ _ h ↦ h.mono fun _ _ hb ↦ ⟨hb.plain, hb⟩
  appended r expected es := (appendEvents_spec s r expected es).mono fun _ _ _ _ h m hm ↦ by
    subst hm
    obtain ⟨_, ys, _, rfl, hbody⟩ := h.answered
    obtain ⟨hmap, hm, hfit⟩ := hbody.answered
    exact ⟨by simp [hmap], hm, hfit⟩
  continued r snapshot startedAt :=
    (continueAsNew_spec s r snapshot startedAt).mono fun _ _ _ _ h info hinfo ↦ by
      subst hinfo
      obtain ⟨_, ys, _, rfl, hbody⟩ := h.answered
      obtain ⟨next, id, workflow, workflowType, hmap, hinfo⟩ := hbody.answered
      exact ⟨next, id, workflow, workflowType, by simp [hmap], hinfo⟩

/-- A database whose run is running with its next position the last signed 32-bit number. -/
def lastPositionSession : Session :=
  ⟨true, [(.lockRun, [.rows [[.text "wf", .text "t", .text "running", .json .null,
      .timestamp ⟨0, 0⟩]]]), (.nextSeq, [.rows [[.int 2147483647]]])], [], 0⟩

/-- Appending one event at the last position puts it in, then crashes on the position after it,
and the transaction is rolled back: the answer is not the position plus one. -/
theorem append_at_last_position_crashes :
    Says (appendEvents ⟨0xa1⟩ 2147483647 [.delivered 1]) lastPositionSession fun xs o _ ↦
      o = .error "attempt to add with overflow" ∧
      xs.map Prod.fst = [⟨.begin, none⟩, .lock ⟨0xa1⟩, .nextSeq ⟨0xa1⟩,
        .newEvent ⟨0xa1⟩ 2147483647 (.delivered 1), ⟨.rollback, none⟩] :=
  ⟨_, _, _, .send ⟨.begin, none⟩ rfl (.send (.lock _) rfl (.send (.nextSeq _) rfl
    (.send (.newEvent _ _ _) rfl (.send ⟨.rollback, none⟩ rfl (.quiet _))))), rfl, rfl, rfl⟩

end SlotKeeper.Store.Sql
