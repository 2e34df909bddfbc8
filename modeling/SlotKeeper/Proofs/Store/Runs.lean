import SlotKeeper.Store.Memory

/-!
# Runs in the in-memory store

What each operation of the in-memory store does to the runs it keeps, read through `find?`:
`put` and `drop` change one id, and `insertRun` files a fresh run under the id it mints. Each
operation that can fail either fails and leaves the store as it was, or finds a running run and
changes that run alone (continuing as new drops it and files its successor).

`Filed` says that every run is kept under its own id. Every operation keeps it, so the record a
run's id finds is the run itself.

Only an append answers a concurrency conflict: the other operations fail for a missing or closed
run, or a workflow that already has a running run. Closing a run records no input, and closing a
running run to `running` leaves it as it was.
-/

namespace SlotKeeper.Store.Memory

open Workflow

variable {m : Memory}

/-- Looking an id up among the runs not kept under `id`. -/
theorem find?_filter_ne (runs : List (Uuid × StoredRun)) (id id' : Uuid) :
    (runs.filter (·.1 != id)).find? (·.1 == id') =
      if id' = id then none else runs.find? (·.1 == id') := by
  rw [List.find?_filter]
  by_cases h : id' = id
  · subst h
    rw [if_pos rfl, List.find?_eq_none]
    intro e _
    by_cases he : e.1 = id' <;> simp [he]
  · have hkey : (fun e : Uuid × StoredRun ↦ decide ((e.1 != id) = true ∧ (e.1 == id') = true)) =
        (·.1 == id') := by
      funext e
      by_cases he : e.1 = id' <;> simp [he, h]
    rw [hkey, if_neg h]

@[simp] theorem find?_put (m : Memory) (id id' : Uuid) (r : StoredRun) :
    (m.put id r).find? id' = if id' = id then some r else m.find? id' := by
  unfold put find?
  rw [List.find?_append, find?_filter_ne]
  by_cases h : id' = id
  · subst h
    simp
  · rw [if_neg h, if_neg h]
    cases m.runs.find? (·.1 == id') <;> simp [Ne.symm h]

@[simp] theorem find?_drop (m : Memory) (id id' : Uuid) :
    (m.drop id).find? id' = if id' = id then none else m.find? id' := by
  unfold drop find?
  rw [find?_filter_ne]
  split <;> rfl

@[simp] theorem insertRun_run (m : Memory) (workflow workflowType : String) (input : Json)
    (at_ : Instant) : (m.insertRun workflow workflowType input at_).1.run = Uuid.minted m.minted :=
  rfl

@[simp] theorem find?_insertRun (m : Memory) (workflow workflowType : String) (input : Json)
    (at_ : Instant) (id : Uuid) :
    (m.insertRun workflow workflowType input at_).2.find? id =
      if id = Uuid.minted m.minted then
        some ⟨(m.insertRun workflow workflowType input at_).1, [.started input at_]⟩
      else m.find? id := by
  simp only [insertRun]
  exact find?_put _ _ _ _

theorem running_eq_ok {id : Uuid} {r : StoredRun} :
    m.running id = .ok r ↔ m.find? id = some r ∧ r.info.status.isRunning = true := by
  unfold running
  cases hf : m.find? id with
  | none => simp
  | some r' =>
    by_cases hr : r'.info.status.isRunning = true
    · simp only [hr, if_true, Except.ok.injEq, Option.some.injEq]
      constructor
      · rintro rfl
        exact ⟨rfl, hr⟩
      · rintro ⟨rfl, -⟩
        rfl
    · simp only [hr, Bool.false_eq_true, if_false, reduceCtorEq, Option.some.injEq, false_iff,
        not_and]
      rintro rfl
      exact hr

/-- An append fails and changes nothing, or extends a running run. -/
theorem appendEvents_cases (m : Memory) (id : Uuid) (expected : Int) (events : List Event) :
    (∃ e, m.appendEvents id expected events = (.error e, m)) ∨
      ∃ r, m.find? id = some r ∧ r.info.status.isRunning = true ∧
        ∃ n, m.appendEvents id expected events =
          (.ok n, m.put id { r with events := r.events ++ events }) := by
  unfold appendEvents
  cases hr : m.running id with
  | error e => exact .inl ⟨e, rfl⟩
  | ok r =>
    obtain ⟨hfind, hrun⟩ := running_eq_ok.mp hr
    by_cases hc : sequenceOf r.events.length ≠ expected
    · exact .inl ⟨_, by simp only [if_pos hc]; rfl⟩
    · exact .inr ⟨r, hfind, hrun, _, by simp only [if_neg hc]; rfl⟩

/-- Closing fails and changes nothing, or closes a running run with its closing event. -/
theorem closeRun_cases (m : Memory) (id : Uuid) (status : Status) (reason : String) :
    (∃ e, m.closeRun id status reason = (.error e, m)) ∨
      ∃ r, m.find? id = some r ∧ r.info.status.isRunning = true ∧
        m.closeRun id status reason = (.ok (), m.put id
          ⟨{ r.info with status }, r.events ++ (closingEvent status reason).toList⟩) := by
  unfold closeRun
  cases hr : m.running id with
  | error e => exact .inl ⟨e, rfl⟩
  | ok r =>
    obtain ⟨hfind, hrun⟩ := running_eq_ok.mp hr
    exact .inr ⟨r, hfind, hrun, rfl⟩

/-- Continuing fails and changes nothing, or drops a running run and files its successor. -/
theorem continueAsNew_cases (m : Memory) (id : Uuid) (snapshot : Json) (at_ : Instant) :
    (∃ e, m.continueAsNew id snapshot at_ = (.error e, m)) ∨
      ∃ r, m.find? id = some r ∧ r.info.status.isRunning = true ∧
        m.continueAsNew id snapshot at_ =
          (.ok ((m.drop id).insertRun r.info.workflow r.info.workflowType snapshot at_).1,
            ((m.drop id).insertRun r.info.workflow r.info.workflowType snapshot at_).2) := by
  unfold continueAsNew
  cases hr : m.running id with
  | error e => exact .inl ⟨e, rfl⟩
  | ok r =>
    obtain ⟨hfind, hrun⟩ := running_eq_ok.mp hr
    exact .inr ⟨r, hfind, hrun, rfl⟩

/-- Starting fails and changes nothing, or files a fresh run. -/
theorem startRun_cases (m : Memory) (workflow workflowType : String) (input : Json)
    (at_ : Instant) :
    (∃ e, m.startRun workflow workflowType input at_ = (.error e, m)) ∨
      m.startRun workflow workflowType input at_ =
        (.ok (m.insertRun workflow workflowType input at_).1,
          (m.insertRun workflow workflowType input at_).2) := by
  unfold startRun
  dsimp only
  split
  · exact .inl ⟨_, rfl⟩
  · exact .inr rfl

/-- The current run of a workflow is the record of some kept run. -/
theorem currentRun_eq_some {workflow : String} {info : RunInfo}
    (h : m.currentRun workflow = some info) : ∃ id r, m.find? id = some r ∧ r.info = info := by
  unfold currentRun at h
  obtain ⟨id, -, hid⟩ := Option.bind_eq_some_iff.mp h
  obtain ⟨r, hr, rfl⟩ := Option.map_eq_some_iff.mp hid
  exact ⟨id, r, hr, rfl⟩

/-- A loaded history is the run's events, numbered. -/
theorem loadEvents_eq_ok {id : Uuid} {events : List (Int × Event)}
    (h : m.loadEvents id = .ok events) :
    ∃ r, m.find? id = some r ∧ events.map (·.2) = r.events := by
  unfold loadEvents at h
  cases hf : m.find? id with
  | none => simp [hf] at h
  | some r =>
    simp only [hf, Except.ok.injEq] at h
    subst h
    refine ⟨r, rfl, ?_⟩
    rw [List.map_map]
    exact List.zipIdx_map_fst 0 r.events

theorem find?_put_eq_some {id id' : Uuid} {r r' : StoredRun}
    (h : (m.put id r).find? id' = some r') : (id' = id ∧ r' = r) ∨ m.find? id' = some r' := by
  rw [find?_put] at h
  by_cases hid : id' = id
  · rw [if_pos hid, Option.some.injEq] at h
    exact .inl ⟨hid, h.symm⟩
  · rw [if_neg hid] at h
    exact .inr h

theorem find?_drop_eq_some {id id' : Uuid} {r : StoredRun}
    (h : (m.drop id).find? id' = some r) : m.find? id' = some r := by
  rw [find?_drop] at h
  by_cases hid : id' = id
  · rw [if_pos hid] at h
    cases h
  · rwa [if_neg hid] at h

theorem find?_insertRun_eq_some {workflow workflowType : String} {input : Json}
    {at_ : Instant} {id : Uuid} {r : StoredRun}
    (h : (m.insertRun workflow workflowType input at_).2.find? id = some r) :
    r = ⟨(m.insertRun workflow workflowType input at_).1, [.started input at_]⟩ ∨
      m.find? id = some r := by
  rw [find?_insertRun] at h
  by_cases hid : id = Uuid.minted m.minted
  · rw [if_pos hid, Option.some.injEq] at h
    exact .inl h.symm
  · rw [if_neg hid] at h
    exact .inr h

theorem find?_put_self (m : Memory) (id : Uuid) (r : StoredRun) : (m.put id r).find? id = some r := by
  rw [find?_put, if_pos rfl]

theorem find?_insertRun_self (m : Memory) (workflow workflowType : String) (input : Json)
    (at_ : Instant) :
    (m.insertRun workflow workflowType input at_).2.find?
        (m.insertRun workflow workflowType input at_).1.run =
      some ⟨(m.insertRun workflow workflowType input at_).1, [.started input at_]⟩ := by
  rw [find?_insertRun, insertRun_run, if_pos rfl]

/-- A run that is missing or closed is no conflict. -/
theorem running_unconflicted {id : Uuid} {e : StoreError}
    (h : m.running id = .error e) (x y : Int) : e ≠ .conflict x y := by
  unfold running at h
  split at h
  · cases h
    exact fun h ↦ nomatch h
  · split at h
    · cases h
    · cases h
      exact fun h ↦ nomatch h

/-- Every run is kept under its own id. -/
def Filed (m : Memory) : Prop := ∀ id r, m.find? id = some r → r.info.run = id

namespace Filed

theorem empty : Memory.empty.Filed := by
  intro id r h
  simp [find?, Memory.empty] at h

theorem put (h : m.Filed) {id : Uuid} {r : StoredRun} (hr : r.info.run = id) :
    (m.put id r).Filed := by
  intro id' r' hfind
  rw [find?_put] at hfind
  by_cases hid : id' = id
  · rw [if_pos hid, Option.some.injEq] at hfind
    rw [← hfind, hr, hid]
  · rw [if_neg hid] at hfind
    exact h id' r' hfind

theorem drop (h : m.Filed) (id : Uuid) : (m.drop id).Filed := by
  intro id' r' hfind
  rw [find?_drop] at hfind
  by_cases hid : id' = id
  · simp [hid] at hfind
  · rw [if_neg hid] at hfind
    exact h id' r' hfind

theorem insertRun (h : m.Filed) (workflow workflowType : String) (input : Json) (at_ : Instant) :
    (m.insertRun workflow workflowType input at_).2.Filed := by
  intro id r hfind
  rw [find?_insertRun] at hfind
  by_cases hid : id = Uuid.minted m.minted
  · rw [if_pos hid, Option.some.injEq] at hfind
    rw [← hfind, hid]
    rfl
  · rw [if_neg hid] at hfind
    exact h id r hfind

end Filed

end SlotKeeper.Store.Memory

namespace SlotKeeper.Store

open Workflow

theorem Status.eq_running {s : Status} (h : s.isRunning = true) : s = .running := by
  cases s <;> first | rfl | cases h

/-- Closing a running run to a status that is still running changes nothing. -/
theorem StoredRun.close_running {r : StoredRun} (hrun : r.info.status.isRunning = true)
    {status : Status} (hstill : status.isRunning = true) (reason : String) :
    (⟨{ r.info with status }, r.events ++ (closingEvent status reason).toList⟩ : StoredRun) = r := by
  obtain ⟨info, events⟩ := r
  have hold : info.status = .running := Status.eq_running hrun
  obtain rfl := Status.eq_running hstill
  have hinfo : ({ info with status := .running } : RunInfo) = info := by
    rw [← hold]
  simp only [closingEvent, Option.toList, List.append_nil, hinfo]

/-- The closing event of a status is no input. -/
theorem closingEvent_isInput {status : Status} {reason : String} {e : Event}
    (h : e ∈ (closingEvent status reason).toList) : e.isInput = false := by
  cases status <;> simp [closingEvent] at h <;> rw [h] <;> rfl

end SlotKeeper.Store
