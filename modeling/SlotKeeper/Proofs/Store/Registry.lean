import SlotKeeper.Proofs.Store.Refusals

/-!
# The run registry of the in-memory store

`Registered` is what every sequence of calls keeps true of a store that started empty: runs are
kept under their own, distinct, already minted ids; the latest run of a workflow is kept and
belongs to it; a running run is its workflow's latest; and every log starts with its run's own
start. A start checks only the latest run of its workflow, so the last two facts are what keep a
second running run out. `Vacated` is the same store with one workflow's latest run set aside: a
continuation passes through it between dropping the old run and filing its successor.

The main statement, `registry_kept`: after any sequence of calls on an empty store, at most one
kept run of a workflow is running and the workflow's current run is that run; every latest run is
kept, so every workflow ever started has a current run; every log begins with the start of its
run; and continuing a running run drops it for a successor with its workflow and type, running
from the snapshot with its start alone, which becomes the current run, so the store keeps as many
runs as before.
-/

namespace SlotKeeper

theorem Uuid.minted_injective : Function.Injective Uuid.minted := by
  intro j k h
  simp only [Uuid.minted, Uuid.mk.injEq] at h
  omega

namespace Store

open Json Workflow

namespace Memory

variable {m : Memory}

@[simp] theorem latestOf_put (m : Memory) (id : Uuid) (r : StoredRun) (workflow : String) :
    (m.put id r).latestOf workflow = m.latestOf workflow :=
  rfl

@[simp] theorem latestOf_drop (m : Memory) (id : Uuid) (workflow : String) :
    (m.drop id).latestOf workflow = m.latestOf workflow :=
  rfl

/-- A fresh run becomes the latest of its workflow and no other. -/
@[simp] theorem latestOf_insertRun (m : Memory) (workflow workflowType : String) (input : Json)
    (at_ : Instant) (workflow' : String) :
    (m.insertRun workflow workflowType input at_).2.latestOf workflow' =
      if workflow' = workflow then some (Uuid.minted m.minted) else m.latestOf workflow' := by
  show ((m.latest.filter (·.1 != workflow) ++ [(workflow, Uuid.minted m.minted)]).find?
    (·.1 == workflow')).map (·.2) = _
  rw [List.find?_append, List.find?_filter]
  by_cases h : workflow' = workflow
  · -- the workflow's old entries are filtered out, so its fresh entry is found
    subst h
    have hnone : m.latest.find? (fun _ ↦ false) = none :=
      List.find?_eq_none.mpr fun _ _ ↦ Bool.false_ne_true
    simp [hnone]
  · have hkey : m.latest.find? (fun e ↦ decide ((e.1 != workflow) = true ∧ (e.1 == workflow') = true)) =
        m.latest.find? (·.1 == workflow') := by
      congr 1
      funext e
      by_cases he : e.1 = workflow' <;> simp [he, h]
    rw [hkey, if_neg h]
    unfold latestOf
    cases m.latest.find? (·.1 == workflow') <;> simp [Ne.symm h]

theorem currentRun_eq (m : Memory) (workflow : String) :
    m.currentRun workflow = (m.latestOf workflow).bind fun id ↦ (m.find? id).map (·.info) :=
  rfl

/-- A found run is kept under the id it was found by. -/
theorem mem_runs_of_find? {id : Uuid} {r : StoredRun} (h : m.find? id = some r) :
    (id, r) ∈ m.runs := by
  unfold find? at h
  obtain ⟨e, he, rfl⟩ := Option.map_eq_some_iff.mp h
  have hkey : e.1 = id := by simpa using List.find?_some he
  rw [← hkey]
  exact List.mem_of_find?_eq_some he

/-- An id is found exactly when it is kept. -/
theorem find?_eq_none_iff {id : Uuid} : m.find? id = none ↔ id ∉ m.runs.map (·.1) := by
  unfold find?
  simp only [Option.map_eq_none_iff, List.find?_eq_none, List.mem_map, not_exists, not_and,
    beq_iff_eq]

theorem keys_put (m : Memory) (id : Uuid) (r : StoredRun) :
    (m.put id r).runs.map (·.1) = (m.runs.map (·.1)).filter (· != id) ++ [id] := by
  simp only [put, List.map_append, List.map_cons, List.map_nil, List.filter_map]
  rfl

/-- Filing a run keeps the ids distinct. -/
theorem keys_put_nodup (m : Memory) (id : Uuid) (r : StoredRun) (h : (m.runs.map (·.1)).Nodup) :
    ((m.put id r).runs.map (·.1)).Nodup := by
  rw [keys_put, List.nodup_append]
  refine ⟨h.filter _, List.nodup_cons.mpr ⟨List.not_mem_nil, List.nodup_nil⟩, ?_⟩
  intro a ha b hb
  rw [List.mem_singleton] at hb
  subst hb
  simpa using (List.mem_filter.mp ha).2

/-- Dropping a kept run, or filing a new one, changes the count of runs by one. -/
theorem length_filter_kept {runs : List (Uuid × StoredRun)} (h : (runs.map (·.1)).Nodup)
    {id : Uuid} (hid : id ∈ runs.map (·.1)) : (runs.filter (·.1 != id)).length + 1 = runs.length := by
  induction runs with
  | nil => cases hid
  | cons e rest ih =>
    rw [List.map_cons, List.nodup_cons] at h
    rw [List.map_cons, List.mem_cons] at hid
    by_cases he : e.1 = id
    · -- the kept id is this one, and no later entry has it
      subst he
      have hrest : rest.filter (·.1 != e.1) = rest := by
        rw [List.filter_eq_self]
        intro e' he'
        have hne : e'.1 ≠ e.1 := fun heq ↦ h.1 (heq ▸ List.mem_map_of_mem he')
        simpa using hne
      simp [hrest]
    · have hrest : id ∈ rest.map (·.1) := hid.resolve_left (Ne.symm he)
      have hkeep : (e.1 != id) = true := by simpa using he
      have hlen := ih h.2 hrest
      simp only [List.filter_cons, hkeep, if_true, List.length_cons]
      omega

end Memory

/-- Facts every call keeps of every run: runs kept under their own distinct ids, every id minted
before the counter, every log starting with its run's start. -/
structure Kept (m : Memory) : Prop where
  filed : m.Filed
  distinct : (m.runs.map (·.1)).Nodup
  minted : ∀ e ∈ m.runs, ∃ k < m.minted, e.1 = Uuid.minted k
  started : ∀ id r, m.find? id = some r →
    ∃ rest, r.events = .started r.info.input r.info.startedAt :: rest

/-- The registry of a store: the latest run of a workflow is kept and belongs to it, and a running
run is its workflow's latest. -/
structure Registered (m : Memory) : Prop extends Kept m where
  latest : ∀ workflow id, m.latestOf workflow = some id →
    ∃ r, m.find? id = some r ∧ r.info.workflow = workflow
  running : ∀ id r, m.find? id = some r → r.info.status.isRunning = true →
    m.latestOf r.info.workflow = some id

/-- The registry with the latest run of `workflow` set aside: no run of it is running. -/
structure Vacated (m : Memory) (workflow : String) : Prop extends Kept m where
  latest : ∀ workflow' id, workflow' ≠ workflow → m.latestOf workflow' = some id →
    ∃ r, m.find? id = some r ∧ r.info.workflow = workflow'
  running : ∀ id r, m.find? id = some r → r.info.status.isRunning = true →
    r.info.workflow ≠ workflow ∧ m.latestOf r.info.workflow = some id

namespace Kept

variable {m : Memory}

/-- The next id to be minted is not kept. -/
theorem find?_fresh (h : Kept m) : m.find? (Uuid.minted m.minted) = none := by
  rw [Memory.find?_eq_none_iff]
  intro hmem
  obtain ⟨e, he, hkey⟩ := List.mem_map.mp hmem
  obtain ⟨k, hk, hek⟩ := h.minted e he
  have := Uuid.minted_injective (hek.symm.trans hkey)
  omega

/-- Replacing a kept run by one with the same id and start keeps the facts. -/
theorem put {id : Uuid} {r r' : StoredRun} (h : Kept m) (hfind : m.find? id = some r)
    (hrun : r'.info.run = id)
    (hstart : ∃ rest, r'.events = .started r'.info.input r'.info.startedAt :: rest) :
    Kept (m.put id r') := by
  refine ⟨h.filed.put hrun, Memory.keys_put_nodup m id r' h.distinct, fun e he ↦ ?_, ?_⟩
  · rcases List.mem_append.mp he with hold | hnew
    · exact h.minted e (List.mem_filter.mp hold).1
    · rw [List.mem_singleton] at hnew
      subst hnew
      obtain ⟨k, hk, hek⟩ := h.minted _ (Memory.mem_runs_of_find? hfind)
      exact ⟨k, hk, hek⟩
  · intro id' r'' hfind'
    rcases Memory.find?_put_eq_some hfind' with ⟨-, rfl⟩ | hold
    · exact hstart
    · exact h.started id' r'' hold

theorem drop (h : Kept m) (id : Uuid) : Kept (m.drop id) := by
  refine ⟨h.filed.drop id, h.distinct.sublist (List.Sublist.map _ List.filter_sublist), fun e he ↦ ?_,
    fun id' r hfind ↦ h.started id' r (Memory.find?_drop_eq_some hfind)⟩
  exact h.minted e (List.mem_filter.mp he).1

/-- Filing a fresh run under the next id keeps the facts. -/
theorem insertRun (h : Kept m) (workflow workflowType : String) (input : Json) (at_ : Instant) :
    Kept (m.insertRun workflow workflowType input at_).2 := by
  have hfresh := h.find?_fresh
  refine ⟨h.filed.insertRun _ _ _ _, Memory.keys_put_nodup _ _ _ h.distinct, fun e he ↦ ?_,
    fun id r hfind ↦ ?_⟩
  · -- old ids were minted before the counter, the new one at it
    rcases List.mem_append.mp he with hold | hnew
    · obtain ⟨k, hk, hek⟩ := h.minted e (List.mem_filter.mp hold).1
      exact ⟨k, Nat.lt_succ_of_lt hk, hek⟩
    · rw [List.mem_singleton] at hnew
      subst hnew
      exact ⟨m.minted, Nat.lt_succ_self _, rfl⟩
  · rcases Memory.find?_insertRun_eq_some hfind with rfl | hold
    · exact ⟨[], rfl⟩
    · exact h.started id r hold

end Kept

namespace Registered

variable {m : Memory}

theorem empty : Registered Memory.empty where
  filed := Memory.Filed.empty
  distinct := List.nodup_nil
  minted := fun _ h ↦ nomatch h
  started := fun _ _ h ↦ nomatch h
  latest := fun _ _ h ↦ nomatch h
  running := fun _ _ h ↦ nomatch h

/-- Two running runs of one workflow are the same run: both are its latest. -/
theorem unique_running (h : Registered m) {id id' : Uuid} {r r' : StoredRun}
    (hfind : m.find? id = some r) (hfind' : m.find? id' = some r')
    (hsame : r.info.workflow = r'.info.workflow) (hrun : r.info.status.isRunning = true)
    (hrun' : r'.info.status.isRunning = true) : id = id' := by
  have hlatest := h.running id r hfind hrun
  rw [hsame, h.running id' r' hfind' hrun'] at hlatest
  exact (Option.some.inj hlatest).symm

/-- The current run of a workflow is its latest run, kept. -/
theorem currentRun_of_latest (h : Registered m) {workflow : String} {id : Uuid}
    (hlatest : m.latestOf workflow = some id) :
    ∃ r, m.find? id = some r ∧ r.info.workflow = workflow ∧ m.currentRun workflow = some r.info := by
  obtain ⟨r, hfind, hwf⟩ := h.latest workflow id hlatest
  exact ⟨r, hfind, hwf, by rw [Memory.currentRun_eq, hlatest, Option.bind_some, hfind]; rfl⟩

/-- A running run is what its workflow's current run reports. -/
theorem currentRun_running (h : Registered m) {id : Uuid} {r : StoredRun}
    (hfind : m.find? id = some r) (hrun : r.info.status.isRunning = true) :
    m.currentRun r.info.workflow = some r.info := by
  rw [Memory.currentRun_eq, h.running id r hfind hrun, Option.bind_some, hfind]
  rfl

/-- With no running run of a workflow, setting its latest run aside loses nothing. -/
theorem vacate (h : Registered m) {workflow : String}
    (hidle : ∀ id r, m.find? id = some r → r.info.workflow = workflow →
      r.info.status.isRunning = false) : Vacated m workflow where
  toKept := h.toKept
  latest := fun workflow' id _ hlatest ↦ h.latest workflow' id hlatest
  running := fun id r hfind hrun ↦ by
    refine ⟨fun hwf ↦ ?_, h.running id r hfind hrun⟩
    rw [hidle id r hfind hwf] at hrun
    cases hrun

/-- Dropping a running run sets its workflow's latest run aside. -/
theorem drop_running (h : Registered m) {id : Uuid} {r : StoredRun}
    (hfind : m.find? id = some r) (hrun : r.info.status.isRunning = true) :
    Vacated (m.drop id) r.info.workflow where
  toKept := h.toKept.drop id
  latest := fun workflow id' hne hlatest ↦ by
    obtain ⟨r', hfind', hwf⟩ := h.latest workflow id' hlatest
    -- the dropped run is the latest of its own workflow only
    have hid : id' ≠ id := by
      rintro rfl
      rw [hfind, Option.some.injEq] at hfind'
      exact hne (hwf ▸ hfind' ▸ rfl)
    exact ⟨r', by rw [Memory.find?_drop, if_neg hid]; exact hfind', hwf⟩
  running := fun id' r' hfind' hrun' ↦ by
    have hold := Memory.find?_drop_eq_some hfind'
    have hid : id' ≠ id := by
      rintro rfl
      rw [Memory.find?_drop, if_pos rfl] at hfind'
      cases hfind'
    refine ⟨fun hwf ↦ hid ?_, h.running id' r' hold hrun'⟩
    exact h.unique_running hold hfind hwf hrun' hrun

/-- Replacing a kept run by one of the same workflow that runs only if the old one ran keeps the
registry. -/
theorem put (h : Registered m) {id : Uuid} {r r' : StoredRun} (hfind : m.find? id = some r)
    (hid : r'.info.run = id) (hwf : r'.info.workflow = r.info.workflow)
    (hrun : r'.info.status.isRunning = true → r.info.status.isRunning = true)
    (hstart : ∃ rest, r'.events = .started r'.info.input r'.info.startedAt :: rest) :
    Registered (m.put id r') where
  toKept := h.toKept.put hfind hid hstart
  latest := fun workflow id' hlatest ↦ by
    obtain ⟨r'', hfind', hwf'⟩ := h.latest workflow id' hlatest
    by_cases hsame : id' = id
    · subst hsame
      rw [hfind, Option.some.injEq] at hfind'
      subst hfind'
      exact ⟨r', Memory.find?_put_self m id' r', hwf.trans hwf'⟩
    · exact ⟨r'', by rw [Memory.find?_put, if_neg hsame]; exact hfind', hwf'⟩
  running := fun id' r'' hfind' hrun' ↦ by
    rcases Memory.find?_put_eq_some hfind' with ⟨rfl, rfl⟩ | hold
    · rw [Memory.latestOf_put, hwf]
      exact h.running id' r hfind (hrun hrun')
    · exact h.running id' r'' hold hrun'

end Registered

namespace Vacated

variable {m : Memory} {workflow : String}

/-- Filing a fresh run of the vacated workflow restores the registry. -/
theorem insertRun (h : Vacated m workflow) (workflowType : String) (input : Json)
    (at_ : Instant) : Registered (m.insertRun workflow workflowType input at_).2 where
  toKept := h.toKept.insertRun workflow workflowType input at_
  latest := fun workflow' id hlatest ↦ by
    rw [Memory.latestOf_insertRun] at hlatest
    by_cases hwf : workflow' = workflow
    · rw [if_pos hwf, Option.some.injEq] at hlatest
      subst hlatest hwf
      exact ⟨_, Memory.find?_insertRun_self m workflow' workflowType input at_, rfl⟩
    · rw [if_neg hwf] at hlatest
      obtain ⟨r, hfind, hrwf⟩ := h.latest workflow' id hwf hlatest
      -- an old latest run is kept, so its id is not the fresh one
      have hid : id ≠ Uuid.minted m.minted := by
        rintro rfl
        rw [h.toKept.find?_fresh] at hfind
        cases hfind
      exact ⟨r, by rw [Memory.find?_insertRun, if_neg hid]; exact hfind, hrwf⟩
  running := fun id r hfind hrun ↦ by
    rw [Memory.find?_insertRun] at hfind
    by_cases hid : id = Uuid.minted m.minted
    · rw [if_pos hid, Option.some.injEq] at hfind
      subst hfind hid
      rw [Memory.latestOf_insertRun]
      exact if_pos rfl
    · rw [if_neg hid] at hfind
      obtain ⟨hne, hlatest⟩ := h.running id r hfind hrun
      rw [Memory.latestOf_insertRun, if_neg hne, hlatest]

end Vacated

namespace Registered

variable {m : Memory}

/-- Every call keeps the registry. -/
theorem apply (h : Registered m) (c : Call) : Registered (c.apply m) := by
  cases c with
  | startRun workflow workflowType input at_ =>
    rcases Memory.startRun_cases m workflow workflowType input at_ with ⟨e, he⟩ | hok
    · show Registered (m.startRun workflow workflowType input at_).2
      rw [he]
      exact h
    · -- the start went through, so the workflow's latest run, if kept, is closed
      have hrefusal := (Call.run_refused m (.startRun workflow workflowType input at_)).1
      simp only [Call.run, hok, failureOf] at hrefusal
      have hidle : ∀ id r, m.find? id = some r → r.info.workflow = workflow →
          r.info.status.isRunning = false := by
        intro id r hfind hwf
        cases hr : r.info.status.isRunning with
        | false => rfl
        | true =>
          have hlatest := h.running id r hfind hr
          rw [hwf] at hlatest
          simp [Call.refusal, hlatest, hfind, hr] at hrefusal
      show Registered (m.startRun workflow workflowType input at_).2
      rw [hok]
      exact (h.vacate hidle).insertRun workflowType input at_
  | appendEvents id expected events =>
    show Registered (m.appendEvents id expected events).2
    rcases Memory.appendEvents_cases m id expected events with ⟨e, he⟩ | ⟨r, hfind, hrun, n, he⟩
    · rw [he]
      exact h
    · rw [he]
      obtain ⟨rest, hrest⟩ := h.started id r hfind
      exact h.put hfind (h.filed id r hfind) rfl (fun _ ↦ hrun)
        ⟨rest ++ events, by rw [hrest]; rfl⟩
  | continueAsNew id snapshot at_ =>
    show Registered (m.continueAsNew id snapshot at_).2
    rcases Memory.continueAsNew_cases m id snapshot at_ with ⟨e, he⟩ | ⟨r, hfind, hrun, he⟩
    · rw [he]
      exact h
    · rw [he]
      exact (h.drop_running hfind hrun).insertRun _ _ _
  | closeRun id status reason =>
    show Registered (m.closeRun id status reason).2
    rcases Memory.closeRun_cases m id status reason with ⟨e, he⟩ | ⟨r, hfind, hrun, he⟩
    · rw [he]
      exact h
    · rw [he]
      obtain ⟨rest, hrest⟩ := h.started id r hfind
      exact h.put hfind (h.filed id r hfind) rfl (fun _ ↦ hrun)
        ⟨rest ++ (closingEvent status reason).toList, by rw [hrest]; rfl⟩

/-- Every sequence of calls keeps the registry. -/
theorem perform (h : Registered m) (calls : List Call) : Registered (m.perform calls) := by
  induction calls generalizing m with
  | nil => exact h
  | cons c rest ih => exact ih (h.apply c)

/-- Continuing a running run drops it and files its successor, running from the snapshot with its
start alone, as the current run of its workflow; the store keeps as many runs as before. -/
theorem continueAsNew_ok (h : Registered m) {id : Uuid} {r : StoredRun}
    (hfind : m.find? id = some r) (hrun : r.info.status.isRunning = true) (snapshot : Json)
    (at_ : Instant) :
    ∃ info, (m.continueAsNew id snapshot at_).1 = .ok info ∧
      (m.continueAsNew id snapshot at_).2.find? id = none ∧
      info.workflow = r.info.workflow ∧ info.workflowType = r.info.workflowType ∧
      info.status = .running ∧ info.input = snapshot ∧ info.startedAt = at_ ∧
      (m.continueAsNew id snapshot at_).2.find? info.run = some ⟨info, [.started snapshot at_]⟩ ∧
      (m.continueAsNew id snapshot at_).2.currentRun info.workflow = some info ∧
      (m.continueAsNew id snapshot at_).2.runCount = m.runCount := by
  rcases Memory.continueAsNew_cases m id snapshot at_ with ⟨e, he⟩ | ⟨r', hfind', -, he⟩
  · -- a running run is never refused
    have hrefusal := (Call.run_refused m (.continueAsNew id snapshot at_)).1
    simp only [Call.run, he, failureOf, Call.refusal, Memory.closedRefusal, hfind, hrun,
      if_true] at hrefusal
    cases hrefusal
  · rw [hfind, Option.some.injEq] at hfind'
    subst hfind'
    rw [he]
    have hdropped := h.drop_running hfind hrun
    have hnext : Registered ((m.drop id).insertRun r.info.workflow r.info.workflowType snapshot
        at_).2 := hdropped.insertRun _ _ _
    have hself := Memory.find?_insertRun_self (m.drop id) r.info.workflow r.info.workflowType
      snapshot at_
    -- the successor's id is fresh, so the dropped id stays missing
    have hgone : ((m.drop id).insertRun r.info.workflow r.info.workflowType snapshot
        at_).2.find? id = none := by
      rw [Memory.find?_insertRun]
      have hne : id ≠ Uuid.minted (m.drop id).minted := by
        intro heq
        have hminted : (m.drop id).minted = m.minted := rfl
        rw [hminted] at heq
        rw [heq, h.toKept.find?_fresh] at hfind
        cases hfind
      rw [if_neg hne, Memory.find?_drop, if_pos rfl]
    have hcount : ((m.drop id).insertRun r.info.workflow r.info.workflowType snapshot
        at_).2.runCount = m.runCount := by
      have hfresh : Uuid.minted (m.drop id).minted ∉ (m.drop id).runs.map (·.1) :=
        Memory.find?_eq_none_iff.mp hdropped.toKept.find?_fresh
      have hkept : id ∈ m.runs.map (·.1) := List.mem_map_of_mem (Memory.mem_runs_of_find? hfind)
      have hfilter : (m.drop id).runs.filter (·.1 != Uuid.minted (m.drop id).minted) =
          (m.drop id).runs := by
        rw [List.filter_eq_self]
        intro e he
        have hne : e.1 ≠ Uuid.minted (m.drop id).minted := fun heq ↦
          hfresh (heq ▸ List.mem_map_of_mem he)
        simpa using hne
      simp only [Memory.runCount, Memory.insertRun, Memory.put, List.length_append,
        List.length_singleton, hfilter]
      exact Memory.length_filter_kept h.distinct hkept
    exact ⟨_, rfl, hgone, rfl, rfl, rfl, rfl, rfl, hself,
      (hnext.currentRun_running hself rfl), hcount⟩

end Registered

/-- A start, whether it goes through or finds a running run, leaves its workflow a latest run. -/
theorem Call.latestOf_startRun (m : Memory) (workflow workflowType : String) (input : Json)
    (at_ : Instant) : ((Call.startRun workflow workflowType input at_).apply m).latestOf
      workflow ≠ none := by
  show (m.startRun workflow workflowType input at_).2.latestOf workflow ≠ none
  rcases Memory.startRun_cases m workflow workflowType input at_ with ⟨e, he⟩ | hok
  · -- a refused start found the workflow's latest run running
    have hrefusal := (Call.run_refused m (.startRun workflow workflowType input at_)).1
    simp only [Call.run, he, failureOf, Call.refusal] at hrefusal
    rw [he]
    intro hnone
    simp [hnone] at hrefusal
  · rw [hok, Memory.latestOf_insertRun, if_pos rfl]
    exact Option.some_ne_none _

/-- No call takes a workflow's latest run away. -/
theorem Call.latestOf_apply {m : Memory} {workflow : String} (h : m.latestOf workflow ≠ none)
    (c : Call) : (c.apply m).latestOf workflow ≠ none := by
  cases c with
  | startRun workflow' workflowType input at_ =>
    show (m.startRun workflow' workflowType input at_).2.latestOf workflow ≠ none
    rcases Memory.startRun_cases m workflow' workflowType input at_ with ⟨e, he⟩ | hok
    · rw [he]
      exact h
    · rw [hok, Memory.latestOf_insertRun]
      split
      · exact Option.some_ne_none _
      · exact h
  | appendEvents id expected events =>
    show (m.appendEvents id expected events).2.latestOf workflow ≠ none
    rcases Memory.appendEvents_cases m id expected events with ⟨e, he⟩ | ⟨r, -, -, n, he⟩ <;>
      rw [he]
    · exact h
    · exact h
  | continueAsNew id snapshot at_ =>
    show (m.continueAsNew id snapshot at_).2.latestOf workflow ≠ none
    rcases Memory.continueAsNew_cases m id snapshot at_ with ⟨e, he⟩ | ⟨r, -, -, he⟩ <;>
      rw [he]
    · exact h
    · rw [Memory.latestOf_insertRun]
      split
      · exact Option.some_ne_none _
      · exact h
  | closeRun id status reason =>
    show (m.closeRun id status reason).2.latestOf workflow ≠ none
    rcases Memory.closeRun_cases m id status reason with ⟨e, he⟩ | ⟨r, -, -, he⟩ <;> rw [he]
    · exact h
    · exact h

/-- A workflow started anywhere in a sequence of calls has a latest run at its end. -/
theorem Memory.latestOf_perform_of_started {m : Memory} {calls : List Call} {workflow : String}
    (hstart : ∃ workflowType input at_, Call.startRun workflow workflowType input at_ ∈ calls) :
    (m.perform calls).latestOf workflow ≠ none := by
  -- the start leaves a latest run, and every later call keeps one
  have hkeep : ∀ (calls : List Call) (m : Memory), m.latestOf workflow ≠ none →
      (m.perform calls).latestOf workflow ≠ none := by
    intro calls
    induction calls with
    | nil => exact fun _ h ↦ h
    | cons c rest ih => exact fun m h ↦ ih _ (Call.latestOf_apply h c)
  obtain ⟨workflowType, input, at_, hmem⟩ := hstart
  induction calls generalizing m with
  | nil => cases hmem
  | cons c rest ih =>
    rw [Memory.perform_cons]
    rcases List.mem_cons.mp hmem with rfl | hrest
    · exact hkeep rest _ (Call.latestOf_startRun m workflow workflowType input at_)
    · exact ih hrest

/-- After any sequence of calls on an empty store: at most one kept run of a workflow is running,
and the workflow's current run reports it; every latest run is kept, so every workflow ever
started has a current run, of that workflow; every log begins with the start of its run, carrying
its input and start instant; and continuing a running run drops it and files a successor of its
workflow and type, running from the snapshot with its start alone, as the workflow's current run,
leaving the store with as many runs as before. -/
theorem registry_kept (calls : List Call) :
    let m := Memory.empty.perform calls
    (∀ id id' r r', m.find? id = some r → m.find? id' = some r' →
      r.info.workflow = r'.info.workflow → r.info.status.isRunning = true →
      r'.info.status.isRunning = true → id = id') ∧
    (∀ id r, m.find? id = some r → r.info.status.isRunning = true →
      m.currentRun r.info.workflow = some r.info) ∧
    (∀ workflow id, m.latestOf workflow = some id → ∃ r, m.find? id = some r) ∧
    (∀ workflow workflowType input at_, Call.startRun workflow workflowType input at_ ∈ calls →
      ∃ info, m.currentRun workflow = some info ∧ info.workflow = workflow) ∧
    (∀ id r, m.find? id = some r →
      ∃ rest, r.events = .started r.info.input r.info.startedAt :: rest) ∧
    (∀ id r snapshot at_, m.find? id = some r → r.info.status.isRunning = true →
      ∃ info, (m.continueAsNew id snapshot at_).1 = .ok info ∧
        (m.continueAsNew id snapshot at_).2.find? id = none ∧
        info.workflow = r.info.workflow ∧ info.workflowType = r.info.workflowType ∧
        info.status = .running ∧ info.input = snapshot ∧ info.startedAt = at_ ∧
        (m.continueAsNew id snapshot at_).2.find? info.run = some ⟨info, [.started snapshot at_]⟩ ∧
        (m.continueAsNew id snapshot at_).2.currentRun info.workflow = some info ∧
        (m.continueAsNew id snapshot at_).2.runCount = m.runCount) := by
  intro m
  have h : Registered m := Registered.empty.perform calls
  refine ⟨fun id id' r r' hfind hfind' hsame hrun hrun' ↦
      h.unique_running hfind hfind' hsame hrun hrun',
    fun id r hfind hrun ↦ h.currentRun_running hfind hrun,
    fun workflow id hlatest ↦ ?_, fun workflow workflowType input at_ hmem ↦ ?_,
    h.started, fun id r snapshot at_ hfind hrun ↦ h.continueAsNew_ok hfind hrun snapshot at_⟩
  · obtain ⟨r, hfind, -⟩ := h.latest workflow id hlatest
    exact ⟨r, hfind⟩
  · have hlatest : m.latestOf workflow ≠ none :=
      Memory.latestOf_perform_of_started ⟨workflowType, input, at_, hmem⟩
    obtain ⟨id, hid⟩ := Option.ne_none_iff_exists'.mp hlatest
    obtain ⟨r, -, hwf, hcurrent⟩ := h.currentRun_of_latest hid
    exact ⟨r.info, hcurrent, hwf⟩

/-- A started run is the current run of its workflow, and continuing it keeps one run. -/
theorem started_run_continues :
    let m := Memory.empty.perform [.startRun "coordinator" "pool" .null ⟨0, 0⟩]
    ∃ r, m.find? (Uuid.minted 0) = some r ∧ r.info.status.isRunning = true ∧
      m.currentRun r.info.workflow = some r.info ∧
      ∃ info, (m.continueAsNew (Uuid.minted 0) .null ⟨1, 0⟩).1 = .ok info ∧
        (m.continueAsNew (Uuid.minted 0) .null ⟨1, 0⟩).2.runCount = m.runCount := by
  intro m
  have hfind : m.find? (Uuid.minted 0) =
      some ⟨⟨"coordinator", Uuid.minted 0, "pool", .running, .null, ⟨0, 0⟩⟩,
        [.started .null ⟨0, 0⟩]⟩ := rfl
  have hrun : Status.running.isRunning = true := rfl
  obtain ⟨-, hcurrent, -, -, -, hcontinue⟩ := registry_kept [.startRun "coordinator" "pool" .null ⟨0, 0⟩]
  obtain ⟨info, hok, -, -, -, -, -, -, -, -, hcount⟩ := hcontinue _ _ .null ⟨1, 0⟩ hfind hrun
  exact ⟨_, hfind, hrun, hcurrent _ _ hfind hrun, info, hok, hcount⟩

end Store

end SlotKeeper
