import SlotKeeper.Proofs.Engine.Log
import SlotKeeper.Proofs.Store.Runs

/-!
# What the executor keeps true of the store

Two invariants, both about the store alone:

* `Sound p m`: every run is filed under its own id, and every running run is `Shaped`: its log
  is its start, then inputs and markers of the executor's shape (`Program.Logged`), read from
  the state its input restores to. A run whose input does not restore never gets past its start.
* `Tracks p m live pending`: the live run's state is what the inputs of its stored log lead to
  from the state its stored input restores to, and while the run is running its log has the
  executor's shape with `pending` the actions not yet confirmed by a marker.

The lemmas say what each store write does to them: filing a fresh run, appending an input at a
quiet end, appending a marker after the actions were handed on, and closing a run, whoever closes
it. Closing adds at most a lifecycle event, which the state ignores, and a closed run owes no
shape.
-/

namespace SlotKeeper.Engine

open Json Workflow Store

variable {ι σ : Type}

/-- A run's log as the executor writes it: the start, then nothing when the input does not
restore, and otherwise inputs and markers of the executor's shape read from the restored state. -/
def Shaped (p : Program ι σ) (r : StoredRun) : Prop :=
  ∃ input at_ body, r.events = .started input at_ :: body ∧
    (body = [] ∨ ∃ s₀ s pending, p.restore input = .ok s₀ ∧ p.Logged s₀ body s pending)

/-- A store the executor keeps: runs filed under their own ids, running runs of its shape. -/
structure Sound (p : Program ι σ) (m : Memory) : Prop where
  filed : m.Filed
  shaped : ∀ id r, m.find? id = some r → r.info.status.isRunning = true → Shaped p r

/-- The live run's state is what the inputs of its stored log lead to from the state its stored
input restores to; while the run is running, its log has the executor's shape with `pending` not
yet confirmed. -/
def Tracks (p : Program ι σ) (m : Memory) (live : Live σ) (pending : List Action) : Prop :=
  ∃ r input at_ body s₀, m.find? live.run.run = some r ∧
    r.events = .started input at_ :: body ∧ p.restore input = .ok s₀ ∧
    p.feed s₀ body = .ok live.state ∧
    (r.info.status.isRunning = true → p.Logged s₀ body live.state pending)

/-- The store is sound and, when a run is live, it is tracked with nothing pending. -/
def Steady (p : Program ι σ) (live? : Option (Live σ)) (m : Memory) : Prop :=
  Sound p m ∧ ∀ live ∈ live?, Tracks p m live []

variable {p : Program ι σ} {m : Memory}

namespace Shaped

variable {r : StoredRun} {input : Json} {at_ : Instant}

/-- Read from the state its input restores to, a shaped log is of the executor's shape. -/
theorem logged (h : Shaped p r) {body : List Event}
    (hevents : r.events = .started input at_ :: body) {s₀ : σ}
    (hrestore : p.restore input = .ok s₀) : ∃ s pending, p.Logged s₀ body s pending := by
  obtain ⟨input', at', body', hevents', hbody⟩ := h
  rw [hevents, List.cons.injEq, Event.started.injEq] at hevents'
  obtain ⟨⟨rfl, rfl⟩, rfl⟩ := hevents'
  rcases hbody with rfl | ⟨s₀', s, pending, hrestore', hlog⟩
  · exact ⟨s₀, [], .nil s₀⟩
  · rw [hrestore, Except.ok.injEq] at hrestore'
    subst hrestore'
    exact ⟨s, pending, hlog⟩

/-- A loaded log that begins with a start event is the whole log: a shaped log has no start
event after its first, so a load that lost the first event cannot begin with one. -/
theorem eq_of_loaded (h : Shaped p r) {events : List Event}
    (hevents : events = r.events ∨ events = r.events.tail) {rest : List Event}
    (hstart : events = .started input at_ :: rest) : r.events = .started input at_ :: rest := by
  rcases hevents with hall | htail
  · rw [← hall, hstart]
  · obtain ⟨input', at', body, hevents', hbody⟩ := h
    rw [hevents', List.tail_cons] at htail
    rcases hbody with rfl | ⟨s₀, s, pending, -, hlog⟩
    · rw [hstart] at htail
      cases htail
    · have hmem : Event.started input at_ ∈ body := by
        rw [← htail, hstart]
        exact List.mem_cons_self
      rcases hlog.mem hmem with hin | ⟨n, hn⟩
      · cases hin
      · cases hn

/-- No event after the start of a shaped log closes the run. -/
theorem not_terminal (h : Shaped p r) {body : List Event}
    (hevents : r.events = .started input at_ :: body) : ∀ e ∈ body, e.isTerminal = false := by
  obtain ⟨input', at', body', hevents', hbody⟩ := h
  rw [hevents, List.cons.injEq] at hevents'
  obtain ⟨-, rfl⟩ := hevents'
  intro e he
  rcases hbody with rfl | ⟨s₀, s, pending, -, hlog⟩
  · cases he
  · exact hlog.not_terminal he

end Shaped

namespace Sound

theorem empty (p : Program ι σ) : Sound p Memory.empty := by
  refine ⟨Memory.Filed.empty, fun id r h _ ↦ ?_⟩
  simp [Memory.find?, Memory.empty] at h

theorem put (h : Sound p m) {id : Uuid} {r : StoredRun} (hr : r.info.run = id)
    (hshape : r.info.status.isRunning = true → Shaped p r) : Sound p (m.put id r) := by
  refine ⟨h.filed.put hr, fun id' r' hfind hrun ↦ ?_⟩
  rw [Memory.find?_put] at hfind
  by_cases hid : id' = id
  · rw [if_pos hid, Option.some.injEq] at hfind
    subst hfind
    exact hshape hrun
  · rw [if_neg hid] at hfind
    exact h.shaped id' r' hfind hrun

theorem drop (h : Sound p m) (id : Uuid) : Sound p (m.drop id) := by
  refine ⟨h.filed.drop id, fun id' r' hfind hrun ↦ ?_⟩
  rw [Memory.find?_drop] at hfind
  by_cases hid : id' = id
  · rw [if_pos hid] at hfind
    cases hfind
  · rw [if_neg hid] at hfind
    exact h.shaped id' r' hfind hrun

/-- A fresh run holds its start alone. -/
theorem insertRun (h : Sound p m) (workflow workflowType : String) (input : Json)
    (at_ : Instant) : Sound p (m.insertRun workflow workflowType input at_).2 := by
  refine ⟨h.filed.insertRun _ _ _ _, fun id r hfind hrun ↦ ?_⟩
  rw [Memory.find?_insertRun] at hfind
  by_cases hid : id = Uuid.minted m.minted
  · rw [if_pos hid, Option.some.injEq] at hfind
    subst hfind
    exact ⟨input, at_, [], rfl, .inl rfl⟩
  · rw [if_neg hid] at hfind
    exact h.shaped id r hfind hrun

/-- Closing a running run keeps the store sound: the run either stays running with its log, or
owes no shape. -/
theorem closeRun (h : Sound p m) {id : Uuid} {r : StoredRun} (hfind : m.find? id = some r)
    (hrun : r.info.status.isRunning = true) (status : Status) (reason : String) :
    Sound p (m.put id ⟨{ r.info with status }, r.events ++ (closingEvent status reason).toList⟩) := by
  refine h.put (h.filed id r hfind) fun hstill ↦ ?_
  -- only a close to `running` keeps the run running, and it records no event
  cases status with
  | running =>
    obtain ⟨input, at_, body, hevents, hbody⟩ := h.shaped id r hfind hrun
    refine ⟨input, at_, body, ?_, hbody⟩
    show r.events ++ [] = _
    rw [List.append_nil, hevents]
  | _ => cases hstill

end Sound

namespace Tracks

variable {live : Live σ} {pending : List Action}

/-- Tracking, read at the run the live run's id finds. -/
theorem found (h : Tracks p m live pending) {r : StoredRun}
    (hfind : m.find? live.run.run = some r) :
    ∃ input at_ body s₀, r.events = .started input at_ :: body ∧ p.restore input = .ok s₀ ∧
      p.feed s₀ body = .ok live.state ∧
      (r.info.status.isRunning = true → p.Logged s₀ body live.state pending) := by
  obtain ⟨r', input, at_, body, s₀, hfind', hrest⟩ := h
  rw [hfind, Option.some.injEq] at hfind'
  subst hfind'
  exact ⟨input, at_, body, s₀, hrest⟩

/-- The tracked run is of the executor's shape while it is running. -/
theorem shaped (h : Tracks p m live pending) {r : StoredRun}
    (hfind : m.find? live.run.run = some r) (hrun : r.info.status.isRunning = true) :
    Shaped p r := by
  obtain ⟨input, at_, body, s₀, hevents, hrestore, -, hlog⟩ := h.found hfind
  exact ⟨input, at_, body, hevents, .inr ⟨s₀, live.state, pending, hrestore, hlog hrun⟩⟩

/-- A run read back from its log is tracked. -/
theorem of_logged {r : StoredRun} (hfind : m.find? live.run.run = some r) {input : Json}
    {at_ : Instant} {body : List Event} (hevents : r.events = .started input at_ :: body) {s₀ : σ}
    (hrestore : p.restore input = .ok s₀) (hlog : p.Logged s₀ body live.state pending) :
    Tracks p m live pending :=
  ⟨r, input, at_, body, s₀, hfind, hevents, hrestore, hlog.feed, fun _ ↦ hlog⟩

/-- A fresh run is tracked by the live run holding its restored input. -/
theorem insertRun {workflow workflowType : String} {input : Json} {at_ : Instant}
    (hrun : live.run = (m.insertRun workflow workflowType input at_).1)
    (hrestore : p.restore input = .ok live.state) :
    Tracks p (m.insertRun workflow workflowType input at_).2 live [] := by
  refine ⟨⟨(m.insertRun workflow workflowType input at_).1, [.started input at_]⟩, input, at_, [],
    live.state, ?_, rfl, hrestore, rfl, fun _ ↦ .nil _⟩
  rw [Memory.find?_insertRun, hrun, Memory.insertRun_run, if_pos rfl]

/-- Writing another run leaves the tracked one alone. -/
theorem put_ne (h : Tracks p m live pending) {id : Uuid} (hid : id ≠ live.run.run)
    (r : StoredRun) : Tracks p (m.put id r) live pending := by
  obtain ⟨r', input, at_, body, s₀, hfind, hrest⟩ := h
  refine ⟨r', input, at_, body, s₀, ?_, hrest⟩
  rw [Memory.find?_put, if_neg (Ne.symm hid), hfind]

/-- Extending the log of the running tracked run keeps it tracked when the longer log keeps the
executor's shape. -/
theorem append (h : Tracks p m live pending) {r : StoredRun}
    (hfind : m.find? live.run.run = some r) (hrun : r.info.status.isRunning = true)
    {events : List Event} {live' : Live σ} {pending' : List Action} (hrun' : live'.run = live.run)
    (hext : ∀ {s₀ body}, p.Logged s₀ body live.state pending →
      p.Logged s₀ (body ++ events) live'.state pending') :
    Tracks p (m.put live.run.run { r with events := r.events ++ events }) live' pending' := by
  obtain ⟨input, at_, body, s₀, hevents, hrestore, -, hlog⟩ := h.found hfind
  have hfind' : (m.put live.run.run { r with events := r.events ++ events }).find? live'.run.run =
      some { r with events := r.events ++ events } := by
    rw [hrun', Memory.find?_put, if_pos rfl]
  have hevents' : r.events ++ events = .started input at_ :: (body ++ events) := by
    rw [hevents, List.cons_append]
  exact of_logged hfind' hevents' hrestore (hext (hlog hrun))

/-- An input appended to a log with nothing pending leaves its actions pending. -/
theorem appendInput (h : Tracks p m live []) {r : StoredRun}
    (hfind : m.find? live.run.run = some r) (hrun : r.info.status.isRunning = true)
    {e : Event} (he : e.isInput = true) {s' : σ} {actions : List Action}
    (ha : p.apply live.state e = .ok (s', actions)) {live' : Live σ}
    (hrun' : live'.run = live.run) (hstate : live'.state = s') :
    Tracks p (m.put live.run.run { r with events := r.events ++ [e] }) live' actions :=
  h.append hfind hrun hrun' fun hlog ↦ by
    rw [hstate]
    exact hlog.snoc_input he ha

/-- The marker of the pending actions leaves nothing pending. -/
theorem appendDelivered (h : Tracks p m live pending) {r : StoredRun}
    (hfind : m.find? live.run.run = some r) (hrun : r.info.status.isRunning = true)
    (hne : pending ≠ []) {count : Nat} (hcount : count ≤ pending.length) {live' : Live σ}
    (hrun' : live'.run = live.run) (hstate : live'.state = live.state) :
    Tracks p (m.put live.run.run { r with events := r.events ++ [.delivered count] }) live' [] :=
  h.append hfind hrun hrun' fun hlog ↦ by
    rw [hstate]
    exact hlog.snoc_delivered hne hcount

/-- Closing any run, the tracked one included, keeps it tracked: the state ignores the closing
event, and a run that stays running keeps its log. -/
theorem closeRun (h : Tracks p m live pending) {id : Uuid} {r : StoredRun}
    (hfind : m.find? id = some r) (hrun : r.info.status.isRunning = true) (status : Status)
    (reason : String) :
    Tracks p (m.put id ⟨{ r.info with status }, r.events ++ (closingEvent status reason).toList⟩)
      live pending := by
  by_cases hid : id = live.run.run
  · subst hid
    obtain ⟨input, at_, body, s₀, hevents, hrestore, hfeed, hlog⟩ := h.found hfind
    refine ⟨⟨{ r.info with status }, r.events ++ (closingEvent status reason).toList⟩, input, at_,
      body ++ (closingEvent status reason).toList, s₀, ?_, ?_, hrestore, ?_, ?_⟩
    · rw [Memory.find?_put, if_pos rfl]
    · rw [hevents]
      rfl
    · -- the closing event, if any, is a lifecycle event
      cases status with
      | running => rw [closingEvent, Option.toList_none, List.append_nil, hfeed]
      | continuedAsNew => rw [closingEvent, Option.toList_none, List.append_nil, hfeed]
      | cancelled => exact p.feed_append_of_not_input hfeed rfl
      | terminated => exact p.feed_append_of_not_input hfeed rfl
      | failed => exact p.feed_append_of_not_input hfeed rfl
    · intro hstill
      cases status with
      | running => rw [closingEvent, Option.toList_none, List.append_nil]; exact hlog hrun
      | _ => cases hstill
  · exact h.put_ne hid _

end Tracks

/-- Writing the tracked run keeps the store sound when the run stays tracked. -/
theorem Sound.put_tracked (hs : Sound p m) {live live' : Live σ} {pending : List Action}
    {r r' : StoredRun} (hfind : m.find? live.run.run = some r)
    (ht : Tracks p (m.put live.run.run r') live' pending) (hinfo : r'.info = r.info)
    (hrun' : live'.run = live.run) : Sound p (m.put live.run.run r') := by
  refine hs.put (by rw [hinfo]; exact hs.filed _ _ hfind) fun hrun ↦ ht.shaped ?_ hrun
  rw [hrun', Memory.find?_put, if_pos rfl]

/-- Closing any run keeps the store steady, whichever run is live. -/
theorem Steady.closeRun {live? : Option (Live σ)} (h : Steady p live? m) {id : Uuid}
    {r : StoredRun} (hfind : m.find? id = some r) (hrun : r.info.status.isRunning = true)
    (status : Status) (reason : String) :
    Steady p live?
      (m.put id ⟨{ r.info with status }, r.events ++ (closingEvent status reason).toList⟩) :=
  ⟨h.1.closeRun hfind hrun status reason,
    fun live hlive ↦ (h.2 live hlive).closeRun hfind hrun status reason⟩

end SlotKeeper.Engine
