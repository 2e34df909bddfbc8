import Mathlib.Data.List.Perm.Subperm
import SlotKeeper.Proofs.Engine.Execution
import SlotKeeper.Proofs.Engine.Sending

/-!
# Custody of the signals sent to a workflow

`Custody p workflow` runs a process whose only loop drives `workflow` from a world with an empty
store and bus, step by step as `Step` does, beside clients that send signals to `workflow` and
other parties that use the bus away from it. It keeps a `Ledger` of the signals: those the bus
accepted for `workflow`, those a wake-up took from the loop's mailbox and logged, and those
dropped with a mailbox when its loop ended or was aborted.

Along every such execution the bus stays wired, the identity is held by the live loop's mailbox
and by none while no loop is live, and the ledger balances (`Custody.accounts`): every copy of an
accepted signal is logged, dropped, or still held by the live loop's mailbox. So the bus accepts a
signal for the workflow exactly while a loop is live, and once none is, every accepted signal was
logged or dropped with a loop that ended.

The two facts about the mailbox that carry this: a loop that begins registers a mailbox of a
generation no mailbox had, empty (`Driving.begin_fresh`); and a wake-up that leaves the loop
waiting keeps its mailbox, which holds what it held less the signal taken, with perhaps more
behind (`Driving.poll_keeps_rest`).
-/

namespace SlotKeeper.Engine

open Json Workflow Store

variable {ι σ : Type}

/-- What became of the signals clients sent to a workflow: those the bus accepted, those the
workflow's loop took and logged, and those dropped with a loop's mailbox. -/
structure Ledger where
  accepted : List Signal
  logged : List Signal
  dropped : List Signal

namespace Ledger

def empty : Ledger := ⟨[], [], []⟩

/-- The ledger once the loop on mailbox `g` of bus `b` made `progress` in a wake-up: a loop that
goes on waiting has logged the signal it took, if any; a loop that ended has dropped what its
mailbox held. -/
def afterWake (l : Ledger) (b : Bus) (g : Nat) : Progress σ → Ledger
  | .waiting _ => { l with logged := l.logged ++ BusStep.taken g b (.take g) }
  | .finished _ => { l with dropped := l.dropped ++ b.queued g }

/-- Every copy of an accepted signal is logged, dropped, or among `held`. -/
def Balances (l : Ledger) (held : List Signal) : Prop :=
  l.accepted.Subperm (l.logged ++ l.dropped ++ held)

theorem balances_iff [DecidableEq Signal] {l : Ledger} {held : List Signal} :
    l.Balances held ↔
      ∀ s, l.accepted.count s ≤ l.logged.count s + l.dropped.count s + held.count s := by
  simp only [Balances, List.subperm_iff_count, List.count_append, Nat.add_assoc]

theorem Balances.mono {l : Ledger} {held held' : List Signal} (h : l.Balances held)
    (hsub : held.Sublist held') : l.Balances held' :=
  h.trans (hsub.append_left _).subperm

/-- Dropping what a mailbox held keeps the ledger balanced once the mailbox is gone. -/
theorem Balances.drop {l : Ledger} {held : List Signal} (h : l.Balances held) :
    ({ l with dropped := l.dropped ++ held } : Ledger).Balances [] := by
  simpa [Balances, List.append_assoc] using h

end Ledger

namespace Scene

/-- The signals the live loop's mailbox holds; none without a live loop. -/
def held (sc : Scene σ) : List Signal := (sc.loop.map fun d ↦ sc.world.bus.queued d.mailbox).getD []

end Scene

/-- A step on the bus that another party takes away from `workflow`: it does not register the
identity or send it a signal (the bus accepting one for it is a step of its own), and it does not
take from or drop the live loop's mailbox, of generation `live` if there is one. -/
def BusStep.Spares (workflow : String) (live : Option Nat) : BusStep → Prop
  | .register identity => identity ≠ workflow
  | .drop g => live ≠ some g
  | .signal identity _ => identity ≠ workflow
  | .query _ _ => True
  | .take g => live ≠ some g

/-- The executions of a process whose only loop drives `workflow`, with the ledger of the signals
clients sent to it. A loop begins, wakes up or is aborted as in `Step`; the bus accepts a client's
signal for the workflow; another party uses the bus away from the workflow; the world changes
beside its store and bus; or another party terminates a workflow, closes a run or settles a run
cancelled before its loop began. -/
inductive Custody (p : Program ι σ) (workflow : String) : Scene σ → Ledger → Prop
  | start (w : World) (hstore : w.store = Memory.empty) (hbus : w.bus = Bus.empty) :
      Custody p workflow ⟨w, none⟩ .empty
  | begin {w : World} {l : Ledger} (h : Custody p workflow ⟨w, none⟩ l) (input : ι)
      (hround : p.restore (p.encode input) = .ok (p.new input)) :
      Custody p workflow (Scene.after ((Driving.begin p workflow input).run w)) l
  | wake {w : World} {d : Driving σ} {l : Ledger} (h : Custody p workflow ⟨w, some d⟩ l)
      (cancelled : Bool) :
      Custody p workflow (Scene.after ((d.poll p cancelled).run w))
        (l.afterWake w.bus d.mailbox ((d.poll p cancelled).run w).1)
  | abort {w : World} {d : Driving σ} {l : Ledger} (h : Custody p workflow ⟨w, some d⟩ l) :
      Custody p workflow ⟨((World.changeBus (·.release d.mailbox)).run w).2, none⟩
        { l with dropped := l.dropped ++ w.bus.queued d.mailbox }
  | accept {sc : Scene σ} {l : Ledger} (h : Custody p workflow sc l) (s : Signal)
      (hok : (sc.world.bus.signal workflow s).2 = .ok ()) :
      Custody p workflow ⟨{ sc.world with bus := (sc.world.bus.signal workflow s).1 }, sc.loop⟩
        { l with accepted := l.accepted ++ [s] }
  | party {sc : Scene σ} {l : Ledger} (h : Custody p workflow sc l) (st : BusStep)
      (hst : st.Spares workflow (sc.loop.map (·.mailbox))) :
      Custody p workflow ⟨{ sc.world with bus := st.apply sc.world.bus }, sc.loop⟩ l
  | quiet {w : World} {loop : Option (Driving σ)} {l : Ledger} (h : Custody p workflow ⟨w, loop⟩ l)
      (w' : World) (hstore : w'.store = w.store) (hbus : w'.bus = w.bus) :
      Custody p workflow ⟨w', loop⟩ l
  | terminated {w : World} {loop : Option (Driving σ)} {l : Ledger}
      (h : Custody p workflow ⟨w, loop⟩ l) (other reason : String) :
      Custody p workflow
        ⟨((Engine.terminate other reason : ExceptT ExecutorError WorldM _).run.run w).2, loop⟩ l
  | closed {w : World} {loop : Option (Driving σ)} {l : Ledger}
      (h : Custody p workflow ⟨w, loop⟩ l) (run : RunInfo) (status : Status) (reason : String) :
      Custody p workflow
        ⟨((Engine.close run status reason : ExceptT ExecutorError WorldM _).run.run w).2, loop⟩ l
  | cancelled {w : World} {l : Ledger} (h : Custody p workflow ⟨w, none⟩ l) (other : String)
      (input : ι) (hround : p.restore (p.encode input) = .ok (p.new input)) :
      Custody p workflow
        ⟨((runCancelled p w.limits other input : ExceptT ExecutorError WorldM _).run.run w).2,
          none⟩ l

variable {p : Program ι σ} {workflow : String}

/-- Every execution in custody is an execution of the run loop. -/
theorem Custody.reachable {sc : Scene σ} {l : Ledger} (h : Custody p workflow sc l) :
    Reachable p sc := by
  induction h with
  | start w hstore _ => exact .start w hstore
  | begin _ input hround ih => exact .step ih (.begin _ _ input hround)
  | wake _ cancelled ih => exact .step ih (.poll _ _ cancelled)
  | abort _ ih => exact .step ih (.abort _ _)
  | accept _ s _ ih => exact ih.send _ s
  | party _ st _ ih => exact ih.outside _ (by rfl)
  | quiet _ w' hstore _ ih => exact .step ih (.outside _ w' _ hstore)
  | terminated _ other reason ih => exact .step ih (.terminated _ _ other reason)
  | closed _ run status reason ih => exact .step ih (.closed _ _ run status reason)
  | cancelled _ other input hround ih => exact .step ih (.cancelled _ other input hround)

/-! ### The loop's mailbox -/

namespace Driving

/-- A loop that begins on a wired bus waits, if it does, on a mailbox of a generation no mailbox
had, which its registration left empty. -/
theorem begin_fresh {w : World} (hw : Wired w.bus) (input : ι) {d : Driving σ}
    (h : ((begin p workflow input).run w).1 = .waiting d) :
    d.mailbox = w.bus.generations ∧ w.bus.box? d.mailbox = none ∧
      (w.bus.register workflow).1.queued d.mailbox = [] := by
  rcases begin_sent (p := p) workflow input w with ⟨d', hd', -, hmb, -⟩ | ⟨o, b, hfin, -, -⟩
  · rw [hd', Progress.waiting.injEq] at h
    subst h
    refine ⟨hmb, Bus.box?_eq_none_iff.mpr fun m hm ↦ ?_, ?_⟩
    · rw [hmb]
      exact Nat.ne_of_lt (hw.below m hm)
    · -- the registered mailbox is found under its generation, holding nothing
      have hnew := Bus.box?_of_mem (hw.register workflow) (Bus.mem_register.mpr (.inr rfl))
      rw [hmb]
      simp [Bus.queued, hnew]
  · rw [hfin] at h
    cases h

/-- A wake-up that leaves the loop waiting keeps its mailbox, which holds what it held less the
signal taken, with perhaps more behind. -/
theorem poll_keeps_rest {w : World} (hw : Wired w.bus) {d d' : Driving σ}
    (h : ((d.poll p false).run w).1 = .waiting d') :
    d'.workflow = d.workflow ∧ d'.mailbox = d.mailbox ∧ ∃ rest more,
      w.bus.queued d.mailbox = BusStep.taken d.mailbox w.bus (.take d.mailbox) ++ rest ∧
      ((d.poll p false).run w).2.bus.queued d.mailbox = rest ++ more := by
  rcases poll_sent (p := p) d w with ⟨d₁, hd₁, hwf, hmb, hg⟩ | ⟨o, b, hfin, -, -⟩
  · rw [hd₁, Progress.waiting.injEq] at h
    subst h
    obtain ⟨more, hmore⟩ := hg.queued_eq (hw.apply (.take d.mailbox)) d.mailbox
    exact ⟨hwf, hmb, _, more, (Bus.queued_next d.mailbox d.mailbox).symm, hmore⟩
  · rw [hfin] at h
    cases h

end Driving

/-! ### What custody keeps -/

/-- What the executions in custody keep: the bus is wired; the workflow's identity is held by the
live loop's mailbox, and by none while no loop is live; and the ledger balances against what the
live loop's mailbox holds. -/
structure Accounts (workflow : String) (sc : Scene σ) (l : Ledger) : Prop where
  wired : Wired sc.world.bus
  holder : (sc.world.bus.owner? workflow).map (·.generation) = sc.loop.map (·.mailbox)
  balances : l.Balances sc.held

namespace Accounts

variable {w : World} {l : Ledger}

/-- A bus that only grows keeps the accounts of a scene whose loop stays. -/
theorem grow {loop : Option (Driving σ)} {w' : World} (h : Accounts workflow ⟨w, loop⟩ l)
    (hg : Bus.Grows w.bus w'.bus) : Accounts workflow ⟨w', loop⟩ l where
  wired := hg.wired h.wired
  holder := (hg.owner workflow).trans h.holder
  balances := by
    rcases loop with _ | d
    · exact h.balances
    · exact h.balances.mono (hg.queued h.wired d.mailbox).sublist

/-- A loop ended, its mailbox dropped from a bus grown from one whose owners are those of the
scene: the identity is free and what the mailbox held is dropped. -/
theorem ended {d : Driving σ} {b₀ b : Bus} {w' : World} (h : Accounts workflow ⟨w, some d⟩ l)
    (hw₀ : Wired b₀) (howner : (b₀.owner? workflow).map (·.generation) = some d.mailbox)
    (hg : Bus.Grows b₀ b) (hbus : w'.bus = b.release d.mailbox) :
    Accounts workflow (⟨w', none⟩ : Scene σ) { l with dropped := l.dropped ++ w.bus.queued d.mailbox }
    where
  wired := hbus ▸ (hg.wired hw₀).release d.mailbox
  holder := by
    rw [hbus, Bus.owner?_release (hg.wired hw₀), hg.owner, howner, if_pos rfl]
    rfl
  balances := h.balances.drop

theorem start {w : World} (hbus : w.bus = Bus.empty) :
    Accounts workflow (⟨w, none⟩ : Scene σ) Ledger.empty where
  wired := hbus ▸ Wired.empty
  holder := by rw [hbus]; rfl
  balances := (List.nil_sublist _).subperm

theorem begin (h : Accounts workflow (⟨w, none⟩ : Scene σ) l) (input : ι) :
    Accounts workflow (Scene.after ((Driving.begin p workflow input).run w)) l := by
  have hw₁ := h.wired.register workflow
  have hown : ((w.bus.register workflow).1.owner? workflow).map (·.generation) =
      some w.bus.generations := by
    rw [Bus.owner?_register h.wired, if_pos rfl]
  rcases Driving.begin_sent (p := p) workflow input w with
    ⟨d, hd, -, hmb, hg⟩ | ⟨o, b, hfin, hg, hbus⟩
  · -- the loop waits on the mailbox it registered, whose holder it is
    generalize (Driving.begin p workflow input).run w = step at hd hg ⊢
    obtain ⟨progress, w'⟩ := step
    dsimp only at hd hg
    subst hd
    refine ⟨hg.wired hw₁, ?_, h.balances.mono (List.nil_sublist _)⟩
    show (w'.bus.owner? workflow).map (·.generation) = some d.mailbox
    rw [hg.owner, hown, hmb]
  · -- the loop gave up and dropped the mailbox it registered
    generalize (Driving.begin p workflow input).run w = step at hfin hbus ⊢
    obtain ⟨progress, w'⟩ := step
    dsimp only at hfin hbus
    subst hfin
    refine ⟨hbus ▸ (hg.wired hw₁).release _, ?_, h.balances⟩
    show (w'.bus.owner? workflow).map (·.generation) = none
    rw [hbus, Bus.owner?_release (hg.wired hw₁), hg.owner, hown, if_pos rfl]

theorem wake {d : Driving σ} (h : Accounts workflow ⟨w, some d⟩ l) (cancelled : Bool) :
    Accounts workflow (Scene.after ((d.poll p cancelled).run w))
      (l.afterWake w.bus d.mailbox ((d.poll p cancelled).run w).1) := by
  cases cancelled with
  | true =>
    obtain ⟨o, b, hfin, hg, hbus⟩ := Driving.poll_cancelled_sent (p := p) d w
    generalize (d.poll p true).run w = step at hfin hbus ⊢
    obtain ⟨progress, w'⟩ := step
    dsimp only at hfin hbus
    subst hfin
    exact h.ended h.wired h.holder hg hbus
  | false =>
    have hw₁ := h.wired.apply (.take d.mailbox)
    have hown₁ : ((w.bus.next d.mailbox).1.owner? workflow).map (·.generation) = some d.mailbox :=
      (Bus.owner?_apply_of_not_registers (.take d.mailbox) (fun _ h ↦ by cases h)
        (fun _ h ↦ by cases h) workflow).trans h.holder
    rcases Driving.poll_sent (p := p) d w with ⟨d', hd', -, hmb, hg⟩ | ⟨o, b, hfin, hg, hbus⟩
    · obtain ⟨-, -, rest, more, hbefore, hafter⟩ := Driving.poll_keeps_rest h.wired hd'
      generalize (d.poll p false).run w = step at hd' hg hafter ⊢
      obtain ⟨progress, w'⟩ := step
      dsimp only at hd' hg hafter
      subst hd'
      refine ⟨hg.wired hw₁, ?_, ?_⟩
      · show (w'.bus.owner? workflow).map (·.generation) = some d'.mailbox
        rw [hg.owner, hown₁, hmb]
      · -- the signal taken moves from the mailbox to the log, behind the rest stays
        have hbal := h.balances
        show l.afterWake w.bus d.mailbox (.waiting d') |>.Balances (w'.bus.queued d'.mailbox)
        classical
        rw [Ledger.balances_iff] at hbal ⊢
        intro s
        have hs := hbal s
        simp only [Scene.held, Option.map_some, Option.getD_some, hbefore] at hs
        simp only [Ledger.afterWake, hmb, hafter, List.count_append] at hs ⊢
        omega
    · generalize (d.poll p false).run w = step at hfin hbus ⊢
      obtain ⟨progress, w'⟩ := step
      dsimp only at hfin hbus
      subst hfin
      exact h.ended hw₁ hown₁ hg hbus

theorem abort {d : Driving σ} (h : Accounts workflow ⟨w, some d⟩ l) :
    Accounts workflow (⟨((World.changeBus (·.release d.mailbox)).run w).2, none⟩ : Scene σ)
      { l with dropped := l.dropped ++ w.bus.queued d.mailbox } :=
  h.ended h.wired h.holder (.refl w.bus) rfl

theorem accept {sc : Scene σ} (h : Accounts workflow sc l) (s : Signal)
    (hok : (sc.world.bus.signal workflow s).2 = .ok ()) :
    Accounts workflow ⟨{ sc.world with bus := (sc.world.bus.signal workflow s).1 }, sc.loop⟩
      { l with accepted := l.accepted ++ [s] } := by
  have hg := Bus.Grows.signal sc.world.bus workflow s
  refine ⟨hg.wired h.wired, (hg.owner workflow).trans h.holder, ?_⟩
  -- the bus accepts only for a holder, which is the live loop's mailbox
  obtain ⟨m, hm⟩ := Option.isSome_iff_exists.mp ((Bus.signal_ok_iff _ _ _).mp hok)
  have hholder := h.holder
  rw [hm] at hholder
  obtain ⟨d, hd, hgen⟩ : ∃ d, sc.loop = some d ∧ m.generation = d.mailbox := by
    cases hloop : sc.loop with
    | none => rw [hloop] at hholder; cases hholder
    | some d =>
      rw [hloop] at hholder
      exact ⟨d, rfl, Option.some.inj hholder⟩
  have hbal := h.balances
  show ({ l with accepted := l.accepted ++ [s] } : Ledger).Balances
    ((sc.loop.map fun d ↦ (sc.world.bus.signal workflow s).1.queued d.mailbox).getD [])
  rw [hd, Option.map_some, Option.getD_some, Bus.queued_signal h.wired, BusStep.delivered, hm,
    Option.map_some, hgen, if_pos rfl]
  classical
  rw [Ledger.balances_iff] at hbal ⊢
  intro s'
  have hs := hbal s'
  simp only [Scene.held, hd, Option.map_some, Option.getD_some] at hs
  simp only [List.count_append] at hs ⊢
  omega

/-- A step that spares the workflow leaves its holder where it is. -/
theorem owner_spared {b : Bus} (hw : Wired b) {live : Option Nat}
    (hholder : (b.owner? workflow).map (·.generation) = live) {st : BusStep}
    (hst : st.Spares workflow live) :
    ((st.apply b).owner? workflow).map (·.generation) = (b.owner? workflow).map (·.generation) := by
  cases st with
  | register identity =>
    rw [BusStep.apply_register, Bus.owner?_register hw, if_neg (Ne.symm hst)]
  | drop g =>
    rw [BusStep.apply_drop, Bus.owner?_release hw, hholder, if_neg hst]
  | _ =>
    exact Bus.owner?_apply_of_not_registers _ (fun _ h ↦ by cases h) (fun _ h ↦ by cases h) _

/-- A step that spares the workflow leaves what the live loop's mailbox holds as it is. -/
theorem queued_spared {b : Bus} (hw : Wired b) {g : Nat}
    (hholder : (b.owner? workflow).map (·.generation) = some g) {st : BusStep}
    (hst : st.Spares workflow (some g)) : (st.apply b).queued g = b.queued g := by
  cases st with
  | register identity => exact Bus.queued_register hw identity g
  | drop g' =>
    rw [BusStep.apply_drop, Bus.queued_release hw, if_neg fun h ↦ hst (congrArg some h)]
  | signal identity s =>
    -- the signal goes to another identity's holder, which is not the workflow's mailbox
    rw [BusStep.apply_signal, Bus.queued_signal hw, BusStep.delivered, if_neg, List.append_nil]
    intro hother
    obtain ⟨m, hm, -, hid, hgen⟩ := (Bus.owner?_generation hw).mp hother
    obtain ⟨m', hm', -, hid', hgen'⟩ := (Bus.owner?_generation hw).mp hholder
    have hsame := List.inj_on_of_nodup_map hw.distinct hm hm' (hgen.trans hgen'.symm)
    exact hst (hid.symm.trans (hsame ▸ hid'))
  | query identity name => exact Bus.queued_ask identity name g
  | take g' =>
    have hne : g' ≠ g := fun h ↦ hst (congrArg some h.symm)
    have htake := Bus.queued_next (b := b) g' g
    simp only [BusStep.taken, if_neg hne, List.nil_append] at htake
    exact htake

theorem party {sc : Scene σ} (h : Accounts workflow sc l) (st : BusStep)
    (hst : st.Spares workflow (sc.loop.map (·.mailbox))) :
    Accounts workflow ⟨{ sc.world with bus := st.apply sc.world.bus }, sc.loop⟩ l := by
  refine ⟨h.wired.apply st, (owner_spared h.wired h.holder hst).trans h.holder, ?_⟩
  rcases sc with ⟨w, _ | d⟩
  · exact h.balances
  · show l.Balances ((st.apply w.bus).queued d.mailbox)
    rw [queued_spared h.wired h.holder hst]
    exact h.balances

end Accounts

/-- Along every execution in custody the bus stays wired, the workflow's identity is held by the
live loop's mailbox and by none while no loop is live, and the ledger balances. -/
theorem Custody.accounts {sc : Scene σ} {l : Ledger} (h : Custody p workflow sc l) :
    Accounts workflow sc l := by
  induction h with
  | start w _ hbus => exact .start hbus
  | begin _ input _ ih => exact ih.begin input
  | wake _ cancelled ih => exact ih.wake cancelled
  | abort _ ih => exact ih.abort
  | accept _ s hok ih => exact ih.accept s hok
  | party _ st hst ih => exact ih.party st hst
  | quiet _ w' _ hbus ih => exact ih.grow (hbus ▸ .refl _)
  | terminated _ other reason ih => exact ih.grow (terminate_stays Bus.Grows.effects trivial other reason _)
  | closed _ run status reason ih => exact ih.grow (close_stays Bus.Grows.effects run trivial reason _)
  | cancelled _ other input _ ih => exact ih.grow (runCancelled_stays p Bus.Grows.effects trivial _ other input _)

/-- The bus accepts a signal for the workflow exactly while a loop is live. -/
theorem Custody.accepts_iff_live {sc : Scene σ} {l : Ledger} (h : Custody p workflow sc l)
    (s : Signal) : (sc.world.bus.signal workflow s).2 = .ok () ↔ sc.loop.isSome := by
  rw [Bus.signal_ok_iff, ← Option.isSome_map (f := (·.generation)), h.accounts.holder,
    Option.isSome_map]

end SlotKeeper.Engine
