import SlotKeeper.Engine.Executor

/-!
# The shape of a run's log

After its `workflow_started` event, the executor writes a run's log as inputs (signals and
ticks), each followed by at most one `actions_delivered` marker. A marker follows only an input
whose handler asked for actions, it counts at most that many, and it is written once they were
handed on, so every input that asked for actions has its marker unless it is the last one.
`Program.Logged` states this shape, threading the program state through the inputs; its last
index names the actions that the last input left without a marker.

`Program.feed` is the state the inputs of a log lead to. The main statements: a log of this shape
is extended by the executor's two writes (an input at a quiet end, a marker after actions), it
holds no terminal event, and replaying it succeeds with the state `feed` gives and exactly the
unconfirmed actions pending.
-/

namespace SlotKeeper.Workflow.Program

open Json

variable {ι σ : Type}

/-- The state the events of a log lead to from `s`, or the fault of the handler that crashes. -/
def feed (p : Program ι σ) (s : σ) : List Event → Except String σ
  | [] => .ok s
  | e :: rest =>
    match p.apply s e with
    | .ok (s', _) => p.feed s' rest
    | .error fault => .error fault

/-- An input restores to the state the program starts from its decoded form. -/
theorem restore_eq_ok {p : Program ι σ} {input : Json} {s : σ} :
    p.restore input = .ok s ↔ ∃ i, decode p.inputDecoder input = .ok i ∧ p.new i = s := by
  unfold restore
  cases decode p.inputDecoder input with
  | error e => simp [Except.map]
  | ok i => simp [Except.map]

/-- A program none of whose handlers crashes. -/
def Total (p : Program ι σ) : Prop := ∀ s e, ∃ r, p.apply s e = .ok r

/-- A log after its start event, read from state `s`: its inputs lead from `s` to `s'`, each is
followed by at most one delivery marker, written only for an input that asked for actions and
counting at most those, and `pending` are the actions of the last input when no marker follows
it (none otherwise). -/
inductive Logged (p : Program ι σ) : σ → List Event → σ → List Action → Prop
  | nil (s : σ) : Logged p s [] s []
  | last {s s' : σ} {e : Event} {actions : List Action} (input : e.isInput = true)
      (applied : p.apply s e = .ok (s', actions)) : Logged p s [e] s' actions
  | quiet {s s₁ s' : σ} {e : Event} {rest : List Event} {pending : List Action}
      (input : e.isInput = true) (applied : p.apply s e = .ok (s₁, []))
      (tail : Logged p s₁ rest s' pending) : Logged p s (e :: rest) s' pending
  | marked {s s₁ s' : σ} {e : Event} {actions : List Action} {count : Nat} {rest : List Event}
      {pending : List Action} (input : e.isInput = true)
      (applied : p.apply s e = .ok (s₁, actions)) (asked : actions ≠ [])
      (counted : count ≤ actions.length) (tail : Logged p s₁ rest s' pending) :
      Logged p s (e :: .delivered count :: rest) s' pending

variable {p : Program ι σ} {s s' : σ}

theorem apply_of_isInput_eq_false {e : Event} (he : e.isInput = false) (s : σ) :
    p.apply s e = .ok (s, []) := by
  cases e <;> first | rfl | cases he

theorem feed_cons_of_apply {e : Event} {rest : List Event} {s₁ : σ} {actions : List Action}
    (h : p.apply s e = .ok (s₁, actions)) : p.feed s (e :: rest) = p.feed s₁ rest := by
  rw [feed, h]

theorem feed_append {xs : List Event} (h : p.feed s xs = .ok s') (ys : List Event) :
    p.feed s (xs ++ ys) = p.feed s' ys := by
  induction xs generalizing s with
  | nil =>
    rw [feed, Except.ok.injEq] at h
    rw [List.nil_append, h]
  | cons e rest ih =>
    rw [feed] at h
    cases ha : p.apply s e with
    | error fault => rw [ha] at h; cases h
    | ok r =>
      rw [ha] at h
      rw [List.cons_append, feed_cons_of_apply ha]
      exact ih h

/-- Events that are no inputs (markers, lifecycle events) leave the state alone. -/
theorem feed_append_of_not_input {xs : List Event} (h : p.feed s xs = .ok s') {e : Event}
    (he : e.isInput = false) : p.feed s (xs ++ [e]) = .ok s' := by
  rw [feed_append h, feed_cons_of_apply (apply_of_isInput_eq_false he s')]
  rfl

namespace Logged

theorem feed (h : p.Logged s body s' pending) : p.feed s body = .ok s' := by
  induction h with
  | nil s => rfl
  | last _ applied => rw [feed_cons_of_apply applied]; rfl
  | quiet _ applied _ ih => rw [feed_cons_of_apply applied, ih]
  | marked _ applied _ _ _ ih =>
    rw [feed_cons_of_apply applied, feed_cons_of_apply (p.apply_delivered _ _), ih]

/-- Every event of the log is an input or a delivery marker. -/
theorem mem (h : p.Logged s body s' pending) {e : Event} (he : e ∈ body) :
    e.isInput = true ∨ ∃ n, e = .delivered n := by
  induction h with
  | nil s => cases he
  | last input _ =>
    rw [List.mem_singleton] at he
    exact .inl (he ▸ input)
  | quiet input _ _ ih =>
    rcases List.mem_cons.mp he with rfl | hrest
    · exact .inl input
    · exact ih hrest
  | marked input _ _ _ _ ih =>
    rcases List.mem_cons.mp he with rfl | hrest
    · exact .inl input
    rcases List.mem_cons.mp hrest with rfl | hrest
    · exact .inr ⟨_, rfl⟩
    · exact ih hrest

theorem not_terminal (h : p.Logged s body s' pending) {e : Event} (he : e ∈ body) :
    e.isTerminal = false := by
  rcases h.mem he with hin | ⟨n, rfl⟩
  · cases e <;> first | rfl | cases hin
  · rfl

/-- An input written after a log whose actions were all delivered. -/
theorem snoc_input (h : p.Logged s body s' []) {e : Event} (he : e.isInput = true)
    {s'' : σ} {actions : List Action} (ha : p.apply s' e = .ok (s'', actions)) :
    p.Logged s (body ++ [e]) s'' actions := by
  generalize hpending : ([] : List Action) = pending at h
  induction h with
  | nil s => exact .last he ha
  | last input applied =>
    subst hpending
    exact .quiet input applied (.last he ha)
  | quiet input applied _ ih => exact .quiet input applied (ih ha hpending)
  | marked input applied asked counted _ ih =>
    exact .marked input applied asked counted (ih ha hpending)

/-- The marker written once the last input's actions were handed on. -/
theorem snoc_delivered (h : p.Logged s body s' actions) (hne : actions ≠ [])
    {count : Nat} (hcount : count ≤ actions.length) :
    p.Logged s (body ++ [.delivered count]) s' [] := by
  induction h with
  | nil s => exact absurd rfl hne
  | last input applied => exact .marked input applied hne hcount (.nil _)
  | quiet input applied _ ih => exact .quiet input applied (ih hne hcount)
  | marked input applied asked counted _ ih =>
    exact .marked input applied asked counted (ih hne hcount)

theorem nil_inv (h : p.Logged s [] s' pending) : s' = s ∧ pending = [] := by
  cases h
  exact ⟨rfl, rfl⟩

/-- The last event of a log of the executor's shape: an input whose actions are the pending
ones, or a marker, after which nothing is pending. -/
theorem last_inv (h : p.Logged s body s' pending) {pre : List Event} {e : Event}
    (hb : body = pre ++ [e]) :
    (e.isInput = true ∧ ∃ s₁, p.feed s pre = .ok s₁ ∧ p.apply s₁ e = .ok (s', pending)) ∨
      (∃ n, e = .delivered n) ∧ pending = [] := by
  -- induction on the log, peeling one event of `pre` per input and one more per marker
  induction h generalizing pre with
  | nil s => simp at hb
  | last input applied =>
    cases pre with
    | nil =>
      obtain ⟨rfl⟩ := List.cons.inj hb
      exact .inl ⟨input, _, rfl, applied⟩
    | cons x xs => simp at hb
  | quiet input applied tail ih =>
    cases pre with
    | nil =>
      obtain ⟨rfl, rfl⟩ := List.cons.inj hb
      obtain ⟨rfl, rfl⟩ := tail.nil_inv
      exact .inl ⟨input, _, rfl, applied⟩
    | cons x xs =>
      obtain ⟨rfl, hrest⟩ := List.cons.inj hb
      refine (ih hrest).imp (fun ⟨hin, s₂, hfeed, happly⟩ ↦ ⟨hin, s₂, ?_, happly⟩) fun h ↦ h
      rw [feed_cons_of_apply applied, hfeed]
  | marked input applied asked counted tail ih =>
    cases pre with
    | nil => simp at hb
    | cons x xs =>
      obtain ⟨rfl, hrest⟩ := List.cons.inj hb
      cases xs with
      | nil =>
        obtain ⟨rfl, rfl⟩ := List.cons.inj hrest
        exact .inr ⟨⟨_, rfl⟩, tail.nil_inv.2⟩
      | cons y ys =>
        obtain ⟨rfl, htail⟩ := List.cons.inj hrest
        refine (ih htail).imp (fun ⟨hin, s₂, hfeed, happly⟩ ↦ ⟨hin, s₂, ?_, happly⟩) fun h ↦ h
        rw [feed_cons_of_apply applied, feed_cons_of_apply (p.apply_delivered _ _), hfeed]

/-- When the log ends with an input, its actions are the pending ones. -/
theorem pending_of_input (h : p.Logged s body s' pending) {pre : List Event} {e : Event}
    (hb : body = pre ++ [e]) (he : e.isInput = true) :
    ∃ s₁, p.feed s pre = .ok s₁ ∧ p.apply s₁ e = .ok (s', pending) := by
  rcases h.last_inv hb with ⟨-, hlast⟩ | ⟨⟨n, rfl⟩, -⟩
  · exact hlast
  · cases he

/-- Once a marker closes the log, nothing is pending. -/
theorem pending_of_delivered (h : p.Logged s body s' pending) {pre : List Event} {n : Nat}
    (hb : body = pre ++ [.delivered n]) : pending = [] := by
  rcases h.last_inv hb with ⟨hin, -⟩ | ⟨-, hpending⟩
  · cases hin
  · exact hpending

end Logged

end SlotKeeper.Workflow.Program

namespace SlotKeeper.Engine

open Workflow Store

variable {ι σ : Type} {p : Program ι σ} {s s' : σ}

theorem replayInputs_input (run : RunInfo) {e : Event} (he : e.isInput = true) {s₁ : σ}
    {actions : List Action} (ha : p.apply s e = .ok (s₁, actions)) (pending : List Action)
    (rest : List Event) :
    replayInputs p run s pending (e :: rest) = replayInputs p run s₁ actions rest := by
  cases e with
  | signalled signal at_ =>
    simp only [replayInputs]
    rw [ha]
  | ticked timer at_ =>
    simp only [replayInputs]
    rw [ha]
  | _ => cases he

theorem replayInputs_delivered (run : RunInfo) (n : Nat) (pending : List Action)
    (rest : List Event) :
    replayInputs p run s pending (.delivered n :: rest) = replayInputs p run s [] rest := by
  simp only [replayInputs]

end SlotKeeper.Engine

namespace SlotKeeper.Workflow.Program

open Store

variable {ι σ : Type} {p : Program ι σ} {s s' : σ}

/-- Replaying a log of the executor's shape succeeds with its state and its pending actions. -/
theorem Logged.replayInputs {body : List Event} {pending : List Action}
    (h : p.Logged s body s' pending) (run : RunInfo) :
    Engine.replayInputs p run s [] body = .ok (s', pending) := by
  induction h with
  | nil s => rfl
  | last input applied => rw [Engine.replayInputs_input run input applied]; rfl
  | quiet input applied _ ih => rw [Engine.replayInputs_input run input applied, ih]
  | marked input applied _ _ _ ih =>
    rw [Engine.replayInputs_input run input applied, Engine.replayInputs_delivered, ih]

end SlotKeeper.Workflow.Program
