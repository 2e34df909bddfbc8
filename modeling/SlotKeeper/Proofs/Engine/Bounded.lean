import SlotKeeper.Proofs.Engine.Positions
import SlotKeeper.Proofs.Engine.Timed

/-!
# A bounded history

What the executor keeps of its store so that a run's history stays bounded, the loop's position
agrees with the store, and no run takes more than one input once it is old:

* `Written r`: a running run's log is its start, then inputs and delivery markers, an input
  first.
* `Within k r`: a running run holds at most `k` events, or `k + 1` when the last is a marker;
  the executor keeps its runs within `threshold m`, the count at which a bound of `m` events
  falls due.
* `lateCount limits r`: the inputs a run logged when it was already older than the age bound.
* `Bounded limits now m` asks these of every run of the store, with every input stamped outside
  leap seconds and no later than `now`.

A loop between wake-ups holds its run `Poised`: at the store's position, below the threshold,
with no late input. A loop at its check holds it `Ripe`: running, at the store's position. The
lemmas say what each store write does to `Bounded`: an input appended to a poised run, a marker
after an input, a fresh run filed, a run dropped or closed, and the clock moving on.

Outside leap seconds the time elapsed since an instant grows with the clock
(`Instant.elapsedSince_mono`). A leap second counts as part of the second before it, so the
elapsed time falls back by up to a second when the clock leaves one.
-/

namespace SlotKeeper

namespace Instant

/-- An instant outside any leap second. -/
def Leapless (t : Instant) : Prop := t.inLeapSecond = false

theorem le_refl (t : Instant) : t ≤ t := by
  show t.secs < t.secs ∨ (t.secs = t.secs ∧ t.frac ≤ t.frac)
  omega

theorem le_trans {a b c : Instant} (hab : a ≤ b) (hbc : b ≤ c) : a ≤ c := by
  show a.secs < c.secs ∨ (a.secs = c.secs ∧ a.frac ≤ c.frac)
  have h₁ : a.secs < b.secs ∨ (a.secs = b.secs ∧ a.frac ≤ b.frac) := hab
  have h₂ : b.secs < c.secs ∨ (b.secs = c.secs ∧ b.frac ≤ c.frac) := hbc
  omega

theorem frac_lt_of_leapless {t : Instant} (h : t.Leapless) : t.frac < 1000000000 := by
  unfold Leapless inLeapSecond nanosPerSecond at h
  simpa using h

/-- Between instants outside leap seconds, the time since is the plain difference. -/
theorem since_of_leapless {a b : Instant} (ha : a.Leapless) (hb : b.Leapless) :
    a.since b = (a.secs - b.secs) * 1000000000 + ((a.frac : Int) - b.frac) := by
  unfold Leapless at ha hb
  unfold since
  simp only [ha, hb, Bool.false_eq_true, and_false, if_false]
  unfold day secondOfDay secondsPerDay nanosPerSecond
  omega

/-- Outside leap seconds, the time elapsed since an instant grows with the clock. -/
theorem elapsedSince_mono {a a' b : Instant} (ha : a.Leapless) (ha' : a'.Leapless)
    (hb : b.Leapless) (h : a ≤ a') : a.elapsedSince b ≤ a'.elapsedSince b := by
  show (a.since b).toNat ≤ (a'.since b).toNat
  rw [since_of_leapless ha hb, since_of_leapless ha' hb]
  have hfrac := frac_lt_of_leapless ha
  have hfrac' := frac_lt_of_leapless ha'
  have horder : a.secs < a'.secs ∨ (a.secs = a'.secs ∧ a.frac ≤ a'.frac) := h
  omega

end Instant

namespace Workflow.Event

/-- Whether an event is an input logged when its run, started at `start`, was already older
than `after`. -/
def lateFor (after : Span) (start : Instant) : Event → Bool
  | .signalled _ at_ | .ticked _ at_ => decide (after < at_.elapsedSince start)
  | _ => false

/-- An input stamped outside leap seconds no later than `now`; every other event. -/
def StampedBy (now : Instant) : Event → Prop
  | .signalled _ at_ | .ticked _ at_ => at_ ≤ now ∧ at_.Leapless
  | _ => True

theorem lateFor_of_isInput_eq_false {e : Event} (he : e.isInput = false) (after : Span)
    (start : Instant) : e.lateFor after start = false := by
  cases e <;> first | rfl | cases he

theorem stampedBy_of_isInput_eq_false {e : Event} (he : e.isInput = false) (now : Instant) :
    e.StampedBy now := by
  cases e with
  | signalled s at_ => cases he
  | ticked timer at_ => cases he
  | _ => trivial

theorem StampedBy.mono {e : Event} {now now' : Instant} (h : e.StampedBy now) (hle : now ≤ now') :
    e.StampedBy now' := by
  cases e with
  | signalled s at_ => exact ⟨Instant.le_trans h.1 hle, h.2⟩
  | ticked timer at_ => exact ⟨Instant.le_trans h.1 hle, h.2⟩
  | _ => trivial

end Workflow.Event

namespace Engine

open Json Workflow Store

variable {σ : Type}

/-- The inputs a run logged when it was already older than the age bound. -/
def lateCount (limits : Limits) (r : StoredRun) : Nat :=
  r.events.countP (·.lateFor limits.continueAfter r.info.startedAt)

/-- A running run's log as the executor writes it: the start, then inputs and delivery markers,
an input first. -/
def Written (r : StoredRun) : Prop :=
  ∃ input at_ body, r.events = .started input at_ :: body ∧
    (∀ e ∈ body, e.isInput = true ∨ ∃ n, e = .delivered n) ∧ ∀ e ∈ body.head?, e.isInput = true

/-- At most `k` events, or one more when the last is a delivery marker. -/
def Within (k : Nat) (r : StoredRun) : Prop :=
  r.events.length ≤ k ∨ r.events.length = k + 1 ∧ ∃ pre n, r.events = pre ++ [.delivered n]

/-- An event bound short of the largest, `2^64 − 1`. Under such a bound a run is due from its
threshold on until at least one event past it (`threshold_succ_lt`), so a loop that adds an input
and a marker between its checks cannot step over the due counts. -/
def Limits.Capped (limits : Limits) : Prop := limits.maxEvents < 18446744073709551615

/-- What the executor keeps of its store at the instant `now` under `limits`: runs filed under
their ids; running runs written as the executor writes them, and within the threshold under a
capped bound; every run started outside leap seconds, its inputs stamped outside them no later
than `now`, and at most one of them late. -/
structure Bounded (limits : Limits) (now : Instant) (m : Memory) : Prop where
  filed : m.Filed
  written : ∀ id r, m.find? id = some r → r.info.status.isRunning = true → Written r
  within : ∀ id r, m.find? id = some r → r.info.status.isRunning = true → limits.Capped →
    Within (threshold limits.maxEvents) r
  started : ∀ id r, m.find? id = some r → r.info.startedAt.Leapless
  stamped : ∀ id r, m.find? id = some r → ∀ e ∈ r.events, e.StampedBy now
  late : ∀ id r, m.find? id = some r → lateCount limits r ≤ 1

/-- A waiting loop's run, while it runs: the record the loop holds, at the store's position,
below the threshold under a capped bound, with no late input. -/
def Poised (limits : Limits) (live : Live σ) (m : Memory) : Prop :=
  ∀ r, m.find? live.run.run = some r → r.info.status.isRunning = true →
    r.info = live.run ∧ live.sequence = Memory.sequenceOf r.events.length ∧
      (limits.Capped → r.events.length < threshold limits.maxEvents) ∧ lateCount limits r = 0

/-- A loop at its check: its run is running, the record the loop holds, at the store's position. -/
def Ripe (live : Live σ) (m : Memory) : Prop :=
  ∃ r, m.find? live.run.run = some r ∧ r.info = live.run ∧ r.info.status.isRunning = true ∧
    live.sequence = Memory.sequenceOf r.events.length

/-- A loop whose last input awaits its delivery marker: its run is running, the record the loop
holds, at the store's position and at most at the threshold under a capped bound, its log ending
with the input. -/
def Pending (limits : Limits) (live : Live σ) (m : Memory) : Prop :=
  ∃ r pre e, m.find? live.run.run = some r ∧ r.info = live.run ∧
    r.info.status.isRunning = true ∧ live.sequence = Memory.sequenceOf r.events.length ∧
    (limits.Capped → r.events.length ≤ threshold limits.maxEvents) ∧ r.events = pre ++ [e] ∧
    e.isInput = true

/-! ### Logs -/

namespace Written

variable {r : StoredRun}

/-- A log of two events or more holds an input. -/
theorem input_of_two_le (h : Written r) (hlen : 2 ≤ r.events.length) :
    ∃ e ∈ r.events, e.isInput = true := by
  obtain ⟨input, at_, body, hevents, -, hhead⟩ := h
  rw [hevents] at hlen ⊢
  cases body with
  | nil => simp at hlen
  | cons e rest => exact ⟨e, by simp, hhead e rfl⟩

/-- The last event of a log that ends with an input lies after the start. -/
theorem append_input {e : Event} (h : Written r) (he : e.isInput = true) :
    Written { r with events := r.events ++ [e] } := by
  obtain ⟨input, at_, body, hevents, hkinds, hhead⟩ := h
  refine ⟨input, at_, body ++ [e], by rw [hevents]; rfl, fun e' he' ↦ ?_, fun e' he' ↦ ?_⟩
  · rcases List.mem_append.mp he' with hbody | hlast
    · exact hkinds e' hbody
    · rw [List.mem_singleton.mp hlast]
      exact .inl he
  · rw [List.head?_append] at he'
    cases hb : body.head? with
    | none =>
      rw [hb, Option.none_or] at he'
      cases body with
      | nil => cases he'; exact he
      | cons x xs => cases hb
    | some x =>
      rw [hb, Option.some_or] at he'
      exact hhead e' (by rw [hb]; exact he')

/-- A marker after an input keeps the log written. -/
theorem append_delivered (h : Written r) {pre : List Event} {e : Event}
    (hlast : r.events = pre ++ [e]) (he : e.isInput = true) (n : Nat) :
    Written { r with events := r.events ++ [.delivered n] } := by
  obtain ⟨input, at_, body, hevents, hkinds, hhead⟩ := h
  -- the input that ends the log is no start, so the log has a body
  have hbody : body ≠ [] := by
    rintro rfl
    rw [hevents] at hlast
    cases pre with
    | nil => cases hlast; cases he
    | cons x xs => simp at hlast
  refine ⟨input, at_, body ++ [.delivered n], by rw [hevents]; rfl, fun e' he' ↦ ?_, ?_⟩
  · rcases List.mem_append.mp he' with hbody' | hlast'
    · exact hkinds e' hbody'
    · exact .inr ⟨n, List.mem_singleton.mp hlast'⟩
  · cases body with
    | nil => exact absurd rfl hbody
    | cons x xs => exact hhead

end Written

/-- Replaying leaves actions pending only when the log ends with an event that is no marker,
or when it is empty and they were pending before. -/
theorem replayInputs_pending {ι : Type} {p : Program ι σ} (run : RunInfo) {s s' : σ}
    {pending₀ pending : List Action} {body : List Event}
    (h : replayInputs p run s pending₀ body = .ok (s', pending)) (hne : pending ≠ []) :
    (body = [] ∧ pending = pending₀) ∨ ∃ pre e, body = pre ++ [e] ∧ ∀ n, e ≠ .delivered n := by
  induction body generalizing s pending₀ with
  | nil =>
    simp only [replayInputs, Except.ok.injEq, Prod.mk.injEq] at h
    exact .inl ⟨rfl, h.2.symm⟩
  | cons e rest ih =>
    -- whatever the event does to the pending actions, the rest of the log decides
    have hlast : ∀ pending₁ s₁, replayInputs p run s₁ pending₁ rest = .ok (s', pending) →
        (∀ n, e ≠ .delivered n) ∨ rest ≠ [] →
        ∃ pre e', e :: rest = pre ++ [e'] ∧ ∀ n, e' ≠ .delivered n := by
      intro pending₁ s₁ hrest hkind
      rcases ih hrest with ⟨rfl, -⟩ | ⟨pre, e', rfl, he'⟩
      · rcases hkind with hkind | hrest
        · exact ⟨[], e, rfl, hkind⟩
        · exact absurd rfl hrest
      · exact ⟨e :: pre, e', rfl, he'⟩
    refine .inr ?_
    cases e with
    | signalled signal at_ =>
      simp only [replayInputs] at h
      split at h
      · exact hlast _ _ h (.inl nofun)
      · cases h
    | ticked timer at_ =>
      simp only [replayInputs] at h
      split at h
      · exact hlast _ _ h (.inl nofun)
      · cases h
    | delivered n =>
      simp only [replayInputs] at h
      refine hlast _ _ h (.inr ?_)
      rintro rfl
      simp only [replayInputs, Except.ok.injEq, Prod.mk.injEq] at h
      exact hne h.2.symm
    | started input at_ =>
      simp only [replayInputs, Event.isTerminal, Bool.false_eq_true, if_false] at h
      exact hlast _ _ h (.inl nofun)
    | continued input => simp [replayInputs, Event.isTerminal] at h
    | cancelled reason => simp [replayInputs, Event.isTerminal] at h
    | terminated reason => simp [replayInputs, Event.isTerminal] at h

/-! ### The store -/

namespace Bounded

variable {limits : Limits} {now : Instant} {m : Memory}

theorem empty (limits : Limits) (now : Instant) : Bounded limits now Memory.empty := by
  refine ⟨Memory.Filed.empty, ?_, ?_, ?_, ?_, ?_⟩ <;>
    intro id r h <;> simp [Memory.find?, Memory.empty] at h

/-- Filing a run that is bounded itself keeps the store bounded. -/
theorem put (h : Bounded limits now m) {id : Uuid} {r : StoredRun} (hr : r.info.run = id)
    (hwritten : r.info.status.isRunning = true → Written r)
    (hwithin : r.info.status.isRunning = true → limits.Capped →
      Within (threshold limits.maxEvents) r)
    (hstart : r.info.startedAt.Leapless) (hstamped : ∀ e ∈ r.events, e.StampedBy now)
    (hlate : lateCount limits r ≤ 1) : Bounded limits now (m.put id r) := by
  refine ⟨h.filed.put hr, fun id' r' hfind ↦ ?_, fun id' r' hfind ↦ ?_, fun id' r' hfind ↦ ?_,
    fun id' r' hfind ↦ ?_, fun id' r' hfind ↦ ?_⟩ <;>
  rcases Memory.find?_put_eq_some hfind with ⟨-, rfl⟩ | hfind
  · exact hwritten
  · exact h.written id' r' hfind
  · exact hwithin
  · exact h.within id' r' hfind
  · exact hstart
  · exact h.started id' r' hfind
  · exact hstamped
  · exact h.stamped id' r' hfind
  · exact hlate
  · exact h.late id' r' hfind

theorem drop (h : Bounded limits now m) (id : Uuid) : Bounded limits now (m.drop id) := by
  refine ⟨h.filed.drop id, fun id' r hfind ↦ ?_, fun id' r hfind ↦ ?_, fun id' r hfind ↦ ?_,
    fun id' r hfind ↦ ?_, fun id' r hfind ↦ ?_⟩ <;> have hfind := Memory.find?_drop_eq_some hfind
  · exact h.written id' r hfind
  · exact h.within id' r hfind
  · exact h.started id' r hfind
  · exact h.stamped id' r hfind
  · exact h.late id' r hfind

/-- A fresh run started outside leap seconds holds its start alone. -/
theorem insertRun (h : Bounded limits now m) (hlimits : 2 ≤ limits.maxEvents)
    (workflow workflowType : String) (input : Json) {at_ : Instant} (hat : at_.Leapless) :
    Bounded limits now (m.insertRun workflow workflowType input at_).2 := by
  have hfresh : ∀ r : StoredRun, r.events = [.started input at_] → r.info.startedAt = at_ →
      Written r ∧ Within (threshold limits.maxEvents) r ∧ r.info.startedAt.Leapless ∧
        (∀ e ∈ r.events, e.StampedBy now) ∧ lateCount limits r ≤ 1 := by
    intro r hevents hstart
    have htwo := two_le_threshold hlimits
    refine ⟨⟨input, at_, [], hevents, nofun, nofun⟩, .inl ?_, hstart ▸ hat, ?_, ?_⟩
    · rw [hevents, List.length_singleton]
      omega
    · rw [hevents]
      intro e he
      rw [List.mem_singleton.mp he]
      trivial
    · unfold lateCount
      rw [hevents]
      simp [Event.lateFor]
  refine ⟨h.filed.insertRun _ _ _ _, fun id r hfind hrun ↦ ?_, fun id r hfind hrun ↦ ?_,
    fun id r hfind ↦ ?_, fun id r hfind ↦ ?_, fun id r hfind ↦ ?_⟩ <;>
  rcases Memory.find?_insertRun_eq_some hfind with rfl | hfind
  · exact (hfresh _ rfl rfl).1
  · exact h.written id r hfind hrun
  · exact fun _ ↦ (hfresh _ rfl rfl).2.1
  · exact h.within id r hfind hrun
  · exact (hfresh _ rfl rfl).2.2.1
  · exact h.started id r hfind
  · exact (hfresh _ rfl rfl).2.2.2.1
  · exact h.stamped id r hfind
  · exact (hfresh _ rfl rfl).2.2.2.2
  · exact h.late id r hfind

/-- An input stamped by `now`, appended to a running run below the threshold with no late input. -/
theorem appendInput (h : Bounded limits now m) {id : Uuid} {r : StoredRun}
    (hfind : m.find? id = some r) (hrun : r.info.status.isRunning = true)
    (hbelow : limits.Capped → r.events.length < threshold limits.maxEvents)
    (hlate : lateCount limits r = 0) {e : Event} (hinput : e.isInput = true)
    (hstamp : e.StampedBy now) :
    Bounded limits now (m.put id { r with events := r.events ++ [e] }) := by
  refine h.put (h.filed id r hfind) (fun _ ↦ (h.written id r hfind hrun).append_input hinput)
    (fun _ hcap ↦ .inl ?_) (h.started id r hfind) (fun e' he' ↦ ?_) ?_
  · rw [List.length_append]
    exact hbelow hcap
  · rcases List.mem_append.mp he' with hold | hnew
    · exact h.stamped id r hfind e' hold
    · rw [List.mem_singleton.mp hnew]
      exact hstamp
  · -- the old inputs were all in time; the new one is the only one that may be late
    unfold lateCount at hlate ⊢
    rw [List.countP_append, hlate]
    simp only [List.countP_cons, List.countP_nil]
    split <;> decide

/-- A delivery marker after an input, appended to a running run at most at the threshold. -/
theorem appendDelivered (h : Bounded limits now m) {id : Uuid} {r : StoredRun}
    (hfind : m.find? id = some r) (hrun : r.info.status.isRunning = true)
    (hlen : limits.Capped → r.events.length ≤ threshold limits.maxEvents) {pre : List Event}
    {e : Event} (hlast : r.events = pre ++ [e]) (he : e.isInput = true) (n : Nat) :
    Bounded limits now (m.put id { r with events := r.events ++ [.delivered n] }) := by
  refine h.put (h.filed id r hfind) (fun _ ↦ (h.written id r hfind hrun).append_delivered hlast he n)
    (fun _ hcap ↦ ?_) (h.started id r hfind) (fun e' he' ↦ ?_) ?_
  · -- at the threshold, the marker is the one event past it
    rcases Nat.lt_or_eq_of_le (hlen hcap) with hlt | heq
    · exact .inl (by rw [List.length_append]; exact hlt)
    · exact .inr ⟨by rw [List.length_append, heq]; rfl, r.events, n, rfl⟩
  · rcases List.mem_append.mp he' with hold | hnew
    · exact h.stamped id r hfind e' hold
    · rw [List.mem_singleton.mp hnew]
      trivial
  · unfold lateCount
    rw [List.countP_append]
    exact h.late id r hfind

/-- Closing a running run adds at most a closing event, which is no input. -/
theorem close (h : Bounded limits now m) {id : Uuid} {r : StoredRun}
    (hfind : m.find? id = some r) (hrun : r.info.status.isRunning = true) (status : Status)
    (reason : String) :
    Bounded limits now
      (m.put id ⟨{ r.info with status }, r.events ++ (closingEvent status reason).toList⟩) := by
  -- a run closed to `running` records no event and stays as it was
  have hsame : (closingEvent status reason).toList = [] ∨ status.isRunning = false := by
    cases status <;> first | exact .inl rfl | exact .inr rfl
  refine h.put (h.filed id r hfind) (fun hstill ↦ ?_) (fun hstill ↦ ?_) (h.started id r hfind)
    (fun e he ↦ ?_) ?_
  · rcases hsame with hnone | hclosed
    · rw [hnone, List.append_nil]
      exact h.written id r hfind hrun
    · rw [hclosed] at hstill
      cases hstill
  · rcases hsame with hnone | hclosed
    · show limits.Capped → Within _ ⟨_, r.events ++ _⟩
      rw [hnone, List.append_nil]
      exact h.within id r hfind hrun
    · rw [hclosed] at hstill
      cases hstill
  · rcases List.mem_append.mp he with hold | hnew
    · exact h.stamped id r hfind e hold
    · exact Event.stampedBy_of_isInput_eq_false (closingEvent_isInput hnew) now
  · have hclosing : (closingEvent status reason).toList.countP
        (·.lateFor limits.continueAfter r.info.startedAt) = 0 :=
      List.countP_eq_zero.mpr fun e he ↦ by
        simp [Event.lateFor_of_isInput_eq_false (closingEvent_isInput he)]
    show List.countP _ (r.events ++ _) ≤ 1
    rw [List.countP_append, hclosing]
    exact h.late id r hfind

/-- The clock moving on keeps every stamp in the past. -/
theorem later (h : Bounded limits now m) {now' : Instant} (hle : now ≤ now') :
    Bounded limits now' m :=
  ⟨h.filed, h.written, h.within, h.started,
    fun id r hfind e he ↦ (h.stamped id r hfind e he).mono hle, h.late⟩

/-- A run with a late input is older than the age bound at every later instant outside leap
seconds. -/
theorem old_of_late (h : Bounded limits now m) (hnow : now.Leapless) {id : Uuid}
    {r : StoredRun} (hfind : m.find? id = some r) (hlate : 0 < lateCount limits r) :
    limits.continueAfter < now.elapsedSince r.info.startedAt := by
  obtain ⟨e, he, hlateFor⟩ := List.countP_pos_iff.mp hlate
  have hstamp := h.stamped id r hfind e he
  have hstart := h.started id r hfind
  cases e with
  | signalled s at_ =>
    exact Nat.lt_of_lt_of_le (of_decide_eq_true hlateFor)
      (Instant.elapsedSince_mono hstamp.2 hnow hstart hstamp.1)
  | ticked timer at_ =>
    exact Nat.lt_of_lt_of_le (of_decide_eq_true hlateFor)
      (Instant.elapsedSince_mono hstamp.2 hnow hstart hstamp.1)
  | _ => cases hlateFor

/-- A run at its check that is neither older than the age bound nor due by its count is
poised. -/
theorem poised (h : Bounded limits now m) (hnow : now.Leapless) {live : Live σ}
    (hripe : Ripe live m) (hyoung : ¬ limits.continueAfter < now.elapsedSince live.run.startedAt)
    (hcount : positionCount live.sequence < limits.maxEvents) : Poised limits live m := by
  obtain ⟨r, hfind, hinfo, hrun, hseq⟩ := hripe
  intro r' hfind' _
  rw [hfind, Option.some.injEq] at hfind'
  subst hfind'
  refine ⟨hinfo, hseq, fun hcap ↦ ?_, ?_⟩
  · -- within the threshold and one past it the count reads as itself or as due
    have hbound : limits.maxEvents < 18446744073709551615 := hcap
    have hroom : threshold limits.maxEvents + 1 < 4294967296 := threshold_succ_lt (by omega)
    have hsmall : r.events.length < 4294967296 := by
      rcases h.within _ r hfind hrun hcap with hle | ⟨heq, -⟩ <;> omega
    rw [hseq] at hcount
    exact Nat.lt_of_not_le fun hge ↦
      Nat.not_le_of_lt hcount ((due_iff (by omega) hsmall).mpr hge)
  · -- a late input would make the run old by now
    refine Nat.eq_zero_of_not_pos fun hlate ↦ hyoung ?_
    rw [← hinfo]
    exact h.old_of_late hnow hfind hlate

end Bounded

/-- A live run whose run holds its start alone, at position one, is poised under a bound of two
or more. -/
theorem Poised.fresh {limits : Limits} {m : Memory} (hlimits : 2 ≤ limits.maxEvents)
    {live : Live σ} {input : Json} {at_ : Instant}
    (hfind : m.find? live.run.run = some ⟨live.run, [.started input at_]⟩)
    (hseq : live.sequence = 1) : Poised limits live m := by
  intro r hfind' _
  rw [hfind, Option.some.injEq] at hfind'
  subst hfind'
  refine ⟨rfl, by rw [hseq]; rfl, fun _ ↦ ?_, by simp [lateCount, Event.lateFor]⟩
  have htwo := two_le_threshold hlimits
  rw [List.length_singleton]
  omega

/-- Another party closing a run keeps the loop's run poised: a run it closes is no longer
running, or was closed to `running` and stays as it was. -/
theorem Poised.close {limits : Limits} {m : Memory} {live : Live σ} (h : Poised limits live m)
    {id : Uuid} {r : StoredRun} (hfind : m.find? id = some r)
    (hrun : r.info.status.isRunning = true) (status : Status) (reason : String) :
    Poised limits live
      (m.put id ⟨{ r.info with status }, r.events ++ (closingEvent status reason).toList⟩) := by
  intro r' hfind' hrun'
  rcases Memory.find?_put_eq_some hfind' with ⟨hid, rfl⟩ | hfind'
  · rw [StoredRun.close_running hrun hrun' reason]
    exact h r (by rw [hid]; exact hfind) hrun
  · exact h r' hfind' hrun'

theorem Pending.ripe {limits : Limits} {m : Memory} {live : Live σ} (h : Pending limits live m) :
    Ripe live m :=
  let ⟨r, _, _, hfind, hinfo, hrun, hseq, _⟩ := h
  ⟨r, hfind, hinfo, hrun, hseq⟩

/-- The store bounded at `now`, and the loop's run, if a loop is live, poised. -/
def Resting (limits : Limits) (now : Instant) (live? : Option (Live σ)) (m : Memory) : Prop :=
  Bounded limits now m ∧ ∀ live ∈ live?, Poised limits live m

theorem Resting.close {limits : Limits} {now : Instant} {live? : Option (Live σ)} {m : Memory}
    (h : Resting limits now live? m) {id : Uuid} {r : StoredRun} (hfind : m.find? id = some r)
    (hrun : r.info.status.isRunning = true) (status : Status) (reason : String) :
    Resting limits now live?
      (m.put id ⟨{ r.info with status }, r.events ++ (closingEvent status reason).toList⟩) :=
  ⟨h.1.close hfind hrun status reason,
    fun live hlive ↦ (h.2 live hlive).close hfind hrun status reason⟩

end Engine

end SlotKeeper
