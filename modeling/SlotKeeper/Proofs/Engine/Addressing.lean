import Mathlib.Data.List.Induction
import Mathlib.Data.List.Nodup
import SlotKeeper.Proofs.Engine.Handoff

/-!
# Addressing on the signal bus

How identities find their mailboxes, over every sequence of atomic steps on the bus (`BusStep`):
registrations, mailboxes dropped, signals and queries sent to an identity, and mailboxes taking
what they hold next.

`Wired` is what every step keeps: generations are distinct and below the counter, and at most one
mailbox holds each identity. `LiveRegistration` says, from the steps alone, which registration an
identity should reach: its most recent one, unless that mailbox was dropped since.

The main statement, `bus_addressing`: after any steps from an empty bus, an identity's owner is
exactly its live registration; dropping a displaced mailbox leaves every owner in place; a signal
is accepted exactly when its identity has an owner, and lands behind what that mailbox holds and
nowhere else; every signal handed to a mailbox is taken from it in order, discarded with it, or
still held; a displaced mailbox is handed nothing more, gives out what it held and then reports
itself closed; and a query reaches the owner alone.
-/

namespace SlotKeeper.Engine

open Json Workflow

/-- One atomic step on the bus. -/
inductive BusStep where
  | register (identity : String)
  | drop (generation : Nat)
  | signal (identity : String) (s : Signal)
  | query (identity : String) (name : String)
  | take (generation : Nat)

namespace Bus

/-- The signals the mailbox of a generation holds. -/
def queued (b : Bus) (g : Nat) : List Signal := ((b.box? g).map (·.signals)).getD []

end Bus

namespace BusStep

/-- The bus after a step. -/
def apply (b : Bus) : BusStep → Bus
  | .register identity => (b.register identity).1
  | .drop g => b.release g
  | .signal identity s => (b.signal identity s).1
  | .query identity name => (b.ask identity name).1
  | .take g => (b.next g).1

section

variable (b : Bus)

@[simp] theorem apply_register (identity : String) :
    (BusStep.register identity).apply b = (b.register identity).1 := rfl

@[simp] theorem apply_drop (g : Nat) : (BusStep.drop g).apply b = b.release g := rfl

@[simp] theorem apply_signal (identity : String) (s : Signal) :
    (BusStep.signal identity s).apply b = (b.signal identity s).1 := rfl

@[simp] theorem apply_query (identity name : String) :
    (BusStep.query identity name).apply b = (b.ask identity name).1 := rfl

@[simp] theorem apply_take (g : Nat) : (BusStep.take g).apply b = (b.next g).1 := rfl

end

/-- The signals a step hands to the mailbox of generation `g`. -/
def delivered (g : Nat) (b : Bus) : BusStep → List Signal
  | .signal identity s => if (b.owner? identity).map (·.generation) = some g then [s] else []
  | _ => []

/-- The signals a step takes out of the mailbox of generation `g`. -/
def taken (g : Nat) (b : Bus) : BusStep → List Signal
  | .take g' =>
    if g' = g then
      match (b.next g).2 with
      | some (.signal s) => [s]
      | _ => []
    else []
  | _ => []

/-- The signals a step discards with the mailbox of generation `g`. -/
def discarded (g : Nat) (b : Bus) : BusStep → List Signal
  | .drop g' => if g' = g then b.queued g else []
  | _ => []

/-- Whether a step registers a mailbox. -/
def registers : BusStep → Bool
  | .register _ => true
  | _ => false

end BusStep

namespace Bus

/-- The bus after a sequence of steps. -/
def perform (b : Bus) (steps : List BusStep) : Bus := steps.foldl BusStep.apply b

/-- What `f` reads off each step of a sequence, in order. -/
def along (f : Bus → BusStep → List Signal) : Bus → List BusStep → List Signal
  | _, [] => []
  | b, st :: rest => f b st ++ along f (st.apply b) rest

@[simp] theorem perform_nil (b : Bus) : b.perform [] = b := rfl

@[simp] theorem perform_cons (b : Bus) (st : BusStep) (rest : List BusStep) :
    b.perform (st :: rest) = (st.apply b).perform rest :=
  rfl

theorem perform_append_singleton (b : Bus) (steps : List BusStep) (st : BusStep) :
    b.perform (steps ++ [st]) = st.apply (b.perform steps) := by
  simp only [perform, List.foldl_append, List.foldl_cons, List.foldl_nil]

end Bus

/-- The number of registrations among the steps. -/
def registrations (steps : List BusStep) : Nat := steps.countP BusStep.registers

/-- Along the steps, `identity` was registered with generation `g` (the registrations before it
being `g` in number), registered no more afterwards, and that mailbox was not dropped since. -/
def LiveRegistration (steps : List BusStep) (identity : String) (g : Nat) : Prop :=
  ∃ before after, steps = before ++ .register identity :: after ∧ registrations before = g ∧
    (∀ st ∈ after, st ≠ .register identity) ∧ .drop g ∉ after

/-- What every step keeps of a bus: generations below the counter and distinct, and at most one
mailbox holding each identity. -/
structure Wired (b : Bus) : Prop where
  below : ∀ m ∈ b.boxes, m.generation < b.generations
  distinct : (b.boxes.map (·.generation)).Nodup
  single : ∀ m ∈ b.boxes, ∀ m' ∈ b.boxes, m.registered = true → m'.registered = true →
    m.identity = m'.identity → m = m'

/-- A change to a mailbox that keeps its address: its generation, identity and registration. -/
def Mailbox.KeepsAddress (f : Mailbox → Mailbox) : Prop :=
  ∀ m, (f m).generation = m.generation ∧ (f m).identity = m.identity ∧
    (f m).registered = m.registered

/-- Applied at one generation only, a change keeps every address it kept. -/
theorem Mailbox.KeepsAddress.at_ {f : Mailbox → Mailbox} (hf : Mailbox.KeepsAddress f) (g : Nat) :
    Mailbox.KeepsAddress fun m ↦ if m.generation == g then f m else m := by
  intro m
  dsimp only
  split
  · exact hf m
  · exact ⟨rfl, rfl, rfl⟩

namespace Bus

variable {b : Bus}

/-! ### Mailboxes after each operation -/

theorem mem_of_box? {g : Nat} {m : Mailbox} (h : b.box? g = some m) :
    m ∈ b.boxes ∧ m.generation = g :=
  ⟨List.mem_of_find?_eq_some h, by simpa using List.find?_some h⟩

theorem box?_eq_none_iff {g : Nat} : b.box? g = none ↔ ∀ m ∈ b.boxes, m.generation ≠ g := by
  simp [box?, List.find?_eq_none]

/-- On a wired bus a mailbox is found under its generation. -/
theorem box?_of_mem (hw : Wired b) {m : Mailbox} (hm : m ∈ b.boxes) :
    b.box? m.generation = some m := by
  cases hfind : b.box? m.generation with
  | none =>
    exact absurd rfl ((box?_eq_none_iff.mp hfind) m hm)
  | some m' =>
    obtain ⟨hm', hgen⟩ := mem_of_box? hfind
    rw [List.inj_on_of_nodup_map hw.distinct hm' hm hgen]

theorem mem_modifyBox {g : Nat} {f : Mailbox → Mailbox} {m : Mailbox} :
    m ∈ (b.modifyBox g f).boxes ↔ ∃ m₀ ∈ b.boxes, m = if m₀.generation == g then f m₀ else m₀ := by
  simp only [modifyBox, List.mem_map]
  exact ⟨fun ⟨m₀, hm₀, he⟩ ↦ ⟨m₀, hm₀, he.symm⟩, fun ⟨m₀, hm₀, he⟩ ↦ ⟨m₀, hm₀, he.symm⟩⟩

theorem mem_register {identity : String} {m : Mailbox} :
    m ∈ (b.register identity).1.boxes ↔
      (∃ m₀ ∈ b.boxes, m = if m₀.identity == identity then { m₀ with registered := false } else m₀) ∨
        m = ⟨identity, b.generations, [], [], true⟩ := by
  simp only [register, List.mem_append, List.mem_map, List.mem_singleton]
  constructor
  · rintro (⟨m₀, hm₀, he⟩ | he)
    · exact .inl ⟨m₀, hm₀, he.symm⟩
    · exact .inr he
  · rintro (⟨m₀, hm₀, he⟩ | he)
    · exact .inl ⟨m₀, hm₀, he.symm⟩
    · exact .inr he

@[simp] theorem generations_foldl_answer (qs : List Query) (f : Query → Nat)
    (r : Query → Except QueryError Json) (b : Bus) :
    (qs.foldl (fun b q ↦ b.answer (f q) (r q)) b).generations = b.generations := by
  induction qs generalizing b with
  | nil => rfl
  | cons q rest ih => exact ih _

theorem release_boxes (b : Bus) (g : Nat) :
    (b.release g).boxes = b.boxes.filter (·.generation != g) ∧
      (b.release g).generations = b.generations := by
  unfold release
  cases hbox : b.box? g with
  | none =>
    refine ⟨?_, rfl⟩
    symm
    rw [List.filter_eq_self]
    intro m hm
    simpa using (box?_eq_none_iff.mp hbox) m hm
  | some m => exact ⟨boxes_foldl_answer _ _ _, generations_foldl_answer _ _ _ _⟩

theorem mem_release {g : Nat} {m : Mailbox} :
    m ∈ (b.release g).boxes ↔ m ∈ b.boxes ∧ m.generation ≠ g := by
  rw [(release_boxes b g).1, List.mem_filter]
  simp

/-- What a signal does: refused without an owner, otherwise handed to the owner's mailbox. -/
theorem signal_cases (b : Bus) (identity : String) (s : Signal) :
    (b.owner? identity = none ∧ b.signal identity s = (b, .error (.noMailbox identity))) ∨
      ∃ m, b.owner? identity = some m ∧
        b.signal identity s =
          (b.modifyBox m.generation fun m ↦ { m with signals := m.signals ++ [s] }, .ok ()) := by
  unfold signal
  cases b.owner? identity with
  | none => exact .inl ⟨rfl, rfl⟩
  | some m => exact .inr ⟨m, rfl, rfl⟩

/-- What a query does: refused without an owner, otherwise left with the owner's mailbox. -/
theorem ask_cases (b : Bus) (identity name : String) :
    (b.owner? identity = none ∧ b.ask identity name = (b, .error (.noMailbox identity))) ∨
      ∃ m, b.owner? identity = some m ∧
        b.ask identity name =
          ({ b.modifyBox m.generation (fun m ↦ { m with queries := m.queries ++ [⟨b.tickets, name⟩] })
            with tickets := b.tickets + 1 }, .ok b.tickets) := by
  unfold ask
  cases b.owner? identity with
  | none => exact .inl ⟨rfl, rfl⟩
  | some m => exact .inr ⟨m, rfl, rfl⟩

/-- Taking from a mailbox changes at most what that mailbox holds. -/
theorem next_bus (b : Bus) (g : Nat) :
    (b.next g).1 = b ∨
      ∃ f : Mailbox → Mailbox, Mailbox.KeepsAddress f ∧ (b.next g).1 = b.modifyBox g f := by
  rcases next_cases b g with ⟨-, hnext⟩ | ⟨m, q, qs, -, -, hnext⟩ |
      ⟨m, s, ss, -, -, -, hnext⟩ | ⟨m, -, -, -, hnext⟩ <;> rw [hnext]
  · exact .inl rfl
  · exact .inr ⟨fun m ↦ { m with queries := qs }, fun _ ↦ ⟨rfl, rfl, rfl⟩, rfl⟩
  · exact .inr ⟨fun m ↦ { m with signals := ss }, fun _ ↦ ⟨rfl, rfl, rfl⟩, rfl⟩
  · exact .inl rfl

/-! ### Owners -/

/-- On a wired bus, the owner of an identity is the one mailbox registered under it. -/
theorem owner?_eq_some_iff (hw : Wired b) {identity : String} {m : Mailbox} :
    b.owner? identity = some m ↔ m ∈ b.boxes ∧ m.registered = true ∧ m.identity = identity := by
  constructor
  · intro h
    have hp := List.find?_some h
    simp only [Bool.and_eq_true, beq_iff_eq] at hp
    exact ⟨List.mem_of_find?_eq_some h, hp.1, hp.2⟩
  · rintro ⟨hm, hreg, hid⟩
    cases hfind : b.owner? identity with
    | none =>
      have := (List.find?_eq_none.mp hfind) m hm
      simp [hreg, hid] at this
    | some m' =>
      have hp := List.find?_some hfind
      simp only [Bool.and_eq_true, beq_iff_eq] at hp
      rw [hw.single m' (List.mem_of_find?_eq_some hfind) m hm hp.1 hreg (hp.2.trans hid.symm)]

theorem owner?_eq_none_iff {identity : String} :
    b.owner? identity = none ↔ ∀ m ∈ b.boxes, m.registered = true → m.identity ≠ identity := by
  simp only [owner?, List.find?_eq_none, Bool.and_eq_true, beq_iff_eq, not_and]

/-- The owner's generation is the generation of some registered mailbox of the identity. -/
theorem owner?_generation (hw : Wired b) {identity : String} {g : Nat} :
    (b.owner? identity).map (·.generation) = some g ↔
      ∃ m ∈ b.boxes, m.registered = true ∧ m.identity = identity ∧ m.generation = g := by
  constructor
  · intro h
    obtain ⟨m, hm, hgen⟩ := Option.map_eq_some_iff.mp h
    obtain ⟨hmem, hreg, hid⟩ := (owner?_eq_some_iff hw).mp hm
    exact ⟨m, hmem, hreg, hid, hgen⟩
  · rintro ⟨m, hmem, hreg, hid, hgen⟩
    rw [(owner?_eq_some_iff hw).mpr ⟨hmem, hreg, hid⟩]
    exact congrArg some hgen

end Bus

namespace Wired

variable {b : Bus}

theorem empty : Wired Bus.empty := ⟨nofun, List.nodup_nil, nofun⟩

/-- Changing what one mailbox holds keeps a bus wired. -/
theorem modifyBox (hw : Wired b) {g : Nat} {f : Mailbox → Mailbox}
    (hf : Mailbox.KeepsAddress f) : Wired (b.modifyBox g f) := by
  -- the change keeps every field the invariant reads
  have hsame := hf.at_ g
  refine ⟨fun m hm ↦ ?_, ?_, fun m hm m' hm' hreg hreg' hid ↦ ?_⟩
  · obtain ⟨m₀, hm₀, rfl⟩ := Bus.mem_modifyBox.mp hm
    rw [(hsame m₀).1]
    exact hw.below m₀ hm₀
  · have hmap : (b.modifyBox g f).boxes.map (·.generation) = b.boxes.map (·.generation) := by
      simp only [Bus.modifyBox, List.map_map]
      exact List.map_congr_left fun m₀ _ ↦ (hsame m₀).1
    rw [hmap]
    exact hw.distinct
  · obtain ⟨m₀, hm₀, rfl⟩ := Bus.mem_modifyBox.mp hm
    obtain ⟨m₀', hm₀', rfl⟩ := Bus.mem_modifyBox.mp hm'
    rw [(hsame m₀).2.2] at hreg
    rw [(hsame m₀').2.2] at hreg'
    rw [(hsame m₀).2.1, (hsame m₀').2.1] at hid
    rw [hw.single m₀ hm₀ m₀' hm₀' hreg hreg' hid]

theorem release (hw : Wired b) (g : Nat) : Wired (b.release g) := by
  obtain ⟨hboxes, hgens⟩ := Bus.release_boxes b g
  refine ⟨fun m hm ↦ ?_, ?_, fun m hm m' hm' ↦ hw.single m (Bus.mem_release.mp hm).1 m'
    (Bus.mem_release.mp hm').1⟩
  · rw [hgens]
    exact hw.below m (Bus.mem_release.mp hm).1
  · rw [hboxes]
    exact hw.distinct.sublist (List.Sublist.map _ List.filter_sublist)

/-- A registration files a mailbox under the next generation and clears the identity's holder. -/
theorem register (hw : Wired b) (identity : String) : Wired (b.register identity).1 := by
  have hcleared : ∀ m₀ : Mailbox,
      let m := if m₀.identity == identity then { m₀ with registered := false } else m₀
      m.generation = m₀.generation ∧ m.identity = m₀.identity ∧
        (m.registered = true → m₀.registered = true ∧ m₀.identity ≠ identity) := by
    intro m₀
    by_cases hid : m₀.identity = identity
    · simp [hid]
    · simp [hid]
  refine ⟨fun m hm ↦ ?_, ?_, fun m hm m' hm' hreg hreg' hid ↦ ?_⟩
  · show m.generation < b.generations + 1
    rcases Bus.mem_register.mp hm with ⟨m₀, hm₀, rfl⟩ | rfl
    · rw [(hcleared m₀).1]
      exact Nat.lt_succ_of_lt (hw.below m₀ hm₀)
    · exact Nat.lt_succ_self _
  · have hmap : (b.register identity).1.boxes.map (·.generation) =
        b.boxes.map (·.generation) ++ [b.generations] := by
      simp only [Bus.register, List.map_append, List.map_map, List.map_cons, List.map_nil]
      congr 1
      exact List.map_congr_left fun m₀ _ ↦ (hcleared m₀).1
    rw [hmap, List.nodup_append]
    refine ⟨hw.distinct, List.nodup_cons.mpr ⟨List.not_mem_nil, List.nodup_nil⟩, ?_⟩
    intro a ha c hc
    rw [List.mem_singleton] at hc
    subst hc
    obtain ⟨m₀, hm₀, rfl⟩ := List.mem_map.mp ha
    exact Nat.ne_of_lt (hw.below m₀ hm₀)
  · -- an old holder of the identity is cleared, so two holders are old and of another identity
    rcases Bus.mem_register.mp hm with ⟨m₀, hm₀, rfl⟩ | rfl <;>
      rcases Bus.mem_register.mp hm' with ⟨m₀', hm₀', rfl⟩ | rfl
    · obtain ⟨-, hid₀, hreg₀⟩ := hcleared m₀
      obtain ⟨-, hid₀', hreg₀'⟩ := hcleared m₀'
      obtain ⟨hr, hne⟩ := hreg₀ hreg
      obtain ⟨hr', -⟩ := hreg₀' hreg'
      rw [hid₀, hid₀'] at hid
      have heq := hw.single m₀ hm₀ m₀' hm₀' hr hr' hid
      rw [heq]
    · obtain ⟨-, hid₀, hreg₀⟩ := hcleared m₀
      exact absurd (hid₀ ▸ hid) (hreg₀ hreg).2
    · obtain ⟨-, hid₀', hreg₀'⟩ := hcleared m₀'
      exact absurd (hid₀' ▸ hid).symm (hreg₀' hreg').2
    · rfl

/-- Every step keeps a bus wired. -/
theorem apply (hw : Wired b) : ∀ st : BusStep, Wired (st.apply b)
  | .register identity => hw.register identity
  | .drop g => hw.release g
  | .signal identity s => by
    show Wired (b.signal identity s).1
    rcases Bus.signal_cases b identity s with ⟨-, he⟩ | ⟨m, -, he⟩ <;> rw [he]
    · exact hw
    · exact hw.modifyBox fun _ ↦ ⟨rfl, rfl, rfl⟩
  | .query identity name => by
    show Wired (b.ask identity name).1
    rcases Bus.ask_cases b identity name with ⟨-, he⟩ | ⟨m, -, he⟩ <;> rw [he]
    · exact hw
    · -- the ticket counter is no part of the wiring
      have hmod := hw.modifyBox (g := m.generation)
        (f := fun m ↦ { m with queries := m.queries ++ [⟨b.tickets, name⟩] })
        fun _ ↦ ⟨rfl, rfl, rfl⟩
      exact ⟨hmod.below, hmod.distinct, hmod.single⟩
  | .take g => by
    show Wired (b.next g).1
    rcases Bus.next_bus b g with he | ⟨f, hf, he⟩ <;> rw [he]
    · exact hw
    · exact hw.modifyBox hf

theorem perform (hw : Wired b) (steps : List BusStep) : Wired (b.perform steps) := by
  induction steps generalizing b with
  | nil => exact hw
  | cons st rest ih => exact ih (hw.apply st)

end Wired

namespace Bus

variable {b : Bus}

/-! ### Owners after each step -/

/-- Changing what a mailbox holds leaves every owner in place. -/
theorem owner?_modifyBox {g : Nat} {f : Mailbox → Mailbox} (hf : Mailbox.KeepsAddress f)
    (identity : String) :
    ((b.modifyBox g f).owner? identity).map (·.generation) =
      (b.owner? identity).map (·.generation) := by
  have hkeep := hf.at_ g
  simp only [owner?, modifyBox, List.find?_map, Option.map_map]
  have hpred : ((fun m : Mailbox ↦ m.registered && m.identity == identity) ∘
      fun m ↦ if m.generation == g then f m else m) = fun m ↦ m.registered && m.identity == identity := by
    funext m₀
    simp only [Function.comp_apply, (hkeep m₀).2.1, (hkeep m₀).2.2]
  have hgen : ((·.generation) ∘ fun m : Mailbox ↦ if m.generation == g then f m else m) =
      (·.generation) := by
    funext m₀
    exact (hkeep m₀).1
  rw [hpred, hgen]

/-- A registration makes its mailbox the identity's owner and leaves other owners alone. -/
theorem owner?_register (hw : Wired b) (identity identity' : String) :
    ((b.register identity).1.owner? identity').map (·.generation) =
      if identity' = identity then some b.generations
      else (b.owner? identity').map (·.generation) := by
  have hw' := hw.register identity
  split
  · rename_i hid
    subst hid
    rw [owner?_generation hw']
    exact ⟨_, mem_register.mpr (.inr rfl), rfl, rfl, rfl⟩
  · rename_i hne
    apply Option.ext
    intro g
    rw [owner?_generation hw', owner?_generation hw]
    constructor
    · rintro ⟨m, hm, hreg, hid, hgen⟩
      rcases mem_register.mp hm with ⟨m₀, hm₀, rfl⟩ | rfl
      · -- a mailbox of another identity is not cleared
        have hother : m₀.identity ≠ identity := by
          intro h
          simp only [h, beq_self_eq_true, if_true] at hid
          exact hne hid.symm
        simp only [beq_iff_eq, hother, if_false] at hreg hid hgen
        exact ⟨m₀, hm₀, hreg, hid, hgen⟩
      · exact absurd hid.symm hne
    · rintro ⟨m, hm, hreg, hid, hgen⟩
      have hother : m.identity ≠ identity := fun h ↦ hne (hid.symm.trans h)
      refine ⟨m, mem_register.mpr (.inl ⟨m, hm, ?_⟩), hreg, hid, hgen⟩
      simp [hother]

/-- Dropping a mailbox frees the identity it holds and leaves other owners alone. -/
theorem owner?_release (hw : Wired b) (g : Nat) (identity : String) :
    ((b.release g).owner? identity).map (·.generation) =
      if (b.owner? identity).map (·.generation) = some g then none
      else (b.owner? identity).map (·.generation) := by
  have hw' := hw.release g
  apply Option.ext
  intro g'
  rw [owner?_generation hw']
  split
  · rename_i hown
    obtain ⟨m, hm, hreg, hid, hgen⟩ := (owner?_generation hw).mp hown
    -- the identity's one holder is the dropped mailbox
    simp only [reduceCtorEq, iff_false, not_exists, not_and]
    intro m' hm' hreg' hid'
    obtain ⟨hm'', hne⟩ := mem_release.mp hm'
    rw [hw.single m' hm'' m hm hreg' hreg (hid'.trans hid.symm), hgen] at hne
    exact absurd rfl hne
  · rename_i hown
    rw [owner?_generation hw]
    constructor
    · rintro ⟨m, hm, hreg, hid, hgen⟩
      exact ⟨m, (mem_release.mp hm).1, hreg, hid, hgen⟩
    · rintro ⟨m, hm, hreg, hid, hgen⟩
      refine ⟨m, mem_release.mpr ⟨hm, fun hg ↦ hown ?_⟩, hreg, hid, hgen⟩
      rw [owner?_generation hw]
      exact ⟨m, hm, hreg, hid, hg⟩

/-- The generation counter counts registrations. -/
theorem generations_apply (b : Bus) (st : BusStep) :
    (st.apply b).generations = b.generations + if st.registers then 1 else 0 := by
  cases st with
  | register identity => rfl
  | drop g => exact (release_boxes b g).2
  | signal identity s =>
    show (b.signal identity s).1.generations = _
    rcases signal_cases b identity s with ⟨-, he⟩ | ⟨m, -, he⟩ <;> rw [he] <;> rfl
  | query identity name =>
    show (b.ask identity name).1.generations = _
    rcases ask_cases b identity name with ⟨-, he⟩ | ⟨m, -, he⟩ <;> rw [he] <;> rfl
  | take g =>
    show (b.next g).1.generations = _
    rcases next_bus b g with he | ⟨f, -, he⟩ <;> rw [he] <;> rfl

/-- Signals, queries and takes leave every owner in place. -/
theorem owner?_apply_of_not_registers (st : BusStep)
    (hreg : ∀ identity, st ≠ .register identity) (hdrop : ∀ g, st ≠ .drop g) (identity : String) :
    ((st.apply b).owner? identity).map (·.generation) = (b.owner? identity).map (·.generation) := by
  cases st with
  | register identity' => exact absurd rfl (hreg identity')
  | drop g => exact absurd rfl (hdrop g)
  | signal identity' s =>
    show ((b.signal identity' s).1.owner? identity).map _ = _
    rcases signal_cases b identity' s with ⟨-, he⟩ | ⟨m, -, he⟩ <;> rw [he]
    exact owner?_modifyBox (g := m.generation) (f := fun m ↦ { m with signals := m.signals ++ [s] })
      (fun _ ↦ ⟨rfl, rfl, rfl⟩) identity
  | query identity' name =>
    show ((b.ask identity' name).1.owner? identity).map _ = _
    rcases ask_cases b identity' name with ⟨-, he⟩ | ⟨m, -, he⟩ <;> rw [he]
    exact owner?_modifyBox (g := m.generation)
      (f := fun m ↦ { m with queries := m.queries ++ [⟨b.tickets, name⟩] })
      (fun _ ↦ ⟨rfl, rfl, rfl⟩) identity
  | take g =>
    show ((b.next g).1.owner? identity).map _ = _
    rcases next_bus b g with he | ⟨f, hf, he⟩ <;> rw [he]
    exact owner?_modifyBox hf identity

end Bus

/-! ### Live registrations -/

theorem registrations_append_singleton (steps : List BusStep) (st : BusStep) :
    registrations (steps ++ [st]) = registrations steps + if st.registers then 1 else 0 := by
  simp only [registrations, List.countP_append, List.countP_cons, List.countP_nil]
  split <;> rfl

/-- A step added at the end is the live registration, or leaves the live registrations it does not
drop. -/
theorem liveRegistration_append_singleton {steps : List BusStep} {st : BusStep}
    {identity : String} {g : Nat} :
    LiveRegistration (steps ++ [st]) identity g ↔
      (st = .register identity ∧ registrations steps = g) ∨
        (st ≠ .register identity ∧ st ≠ .drop g ∧ LiveRegistration steps identity g) := by
  constructor
  · rintro ⟨before, after, heq, hcount, hno, hdrop⟩
    rcases List.eq_nil_or_concat after with rfl | ⟨after', last, rfl⟩
    · -- the registration is the last step
      obtain ⟨rfl, hst⟩ := List.append_inj' heq rfl
      exact .inl ⟨List.singleton_inj.mp hst, hcount⟩
    · have heq' : steps ++ [st] = (before ++ .register identity :: after') ++ [last] := by
        rw [heq]
        simp
      obtain ⟨hsteps, hst⟩ := List.append_inj' heq' rfl
      rw [List.singleton_inj] at hst
      subst hst
      refine .inr ⟨hno st (by simp), fun h ↦ hdrop (by simp [h]), before, after', hsteps, hcount,
        fun st' hst' ↦ hno st' (by simp [hst']), fun h ↦ hdrop (by simp [h])⟩
  · rintro (⟨rfl, hcount⟩ | ⟨hreg, hdrop, before, after, heq, hcount, hno, hdropped⟩)
    · exact ⟨steps, [], by simp, hcount, by simp, by simp⟩
    · refine ⟨before, after ++ [st], by rw [heq]; simp, hcount, fun st' hst' ↦ ?_, ?_⟩
      · rcases List.mem_append.mp hst' with h | h
        · exact hno st' h
        · rw [List.mem_singleton] at h
          rw [h]
          exact hreg
      · rw [List.mem_append, List.mem_singleton]
        rintro (h | h)
        · exact hdropped h
        · exact hdrop h.symm

/-- One step keeps each identity's owner its live registration, on a wired bus whose counter counts
the registrations. -/
theorem owner?_apply_live {b : Bus} {steps : List BusStep} (hw : Wired b)
    (hgens : b.generations = registrations steps)
    (hown : ∀ identity g, (b.owner? identity).map (·.generation) = some g ↔
      LiveRegistration steps identity g) (st : BusStep) (identity : String) (g : Nat) :
    ((st.apply b).owner? identity).map (·.generation) = some g ↔
      LiveRegistration (steps ++ [st]) identity g := by
  rw [liveRegistration_append_singleton]
  cases st with
  | register identity' =>
    rw [show (BusStep.register identity').apply b = (b.register identity').1 from rfl,
      Bus.owner?_register hw, hgens]
    by_cases hid : identity = identity'
    · subst hid
      simp only [if_true, Option.some.injEq, true_and, ne_eq, not_true_eq_false, false_and,
        or_false]
    · have hne : BusStep.register identity' ≠ .register identity := by
        intro h
        cases h
        exact hid rfl
      simp only [if_neg hid, hne, false_and, false_or, ne_eq, not_false_eq_true, true_and,
        reduceCtorEq, hown]
  | drop g' =>
    rw [show (BusStep.drop g').apply b = b.release g' from rfl, Bus.owner?_release hw]
    have hne : BusStep.drop g' ≠ .register identity := fun h ↦ nomatch h
    simp only [hne, false_and, false_or, ne_eq, not_false_eq_true, true_and, BusStep.drop.injEq]
    split
    · -- the dropped mailbox was the owner: no generation is live any more
      rename_i hown'
      simp only [reduceCtorEq, false_iff, not_and]
      intro hg hlive
      exact hg (Option.some.inj (hown'.symm.trans ((hown identity g).mpr hlive)))
    · rename_i hown'
      rw [hown]
      refine ⟨fun hlive ↦ ⟨fun hg ↦ hown' ?_, hlive⟩, fun h ↦ h.2⟩
      rw [hg]
      exact (hown identity g).mpr hlive
  | signal identity' s =>
    rw [Bus.owner?_apply_of_not_registers (.signal identity' s) (fun _ h ↦ nomatch h)
      (fun _ h ↦ nomatch h)]
    simp only [reduceCtorEq, false_and, ne_eq, not_false_eq_true, true_and, false_or, hown]
  | query identity' name =>
    rw [Bus.owner?_apply_of_not_registers (.query identity' name) (fun _ h ↦ nomatch h)
      (fun _ h ↦ nomatch h)]
    simp only [reduceCtorEq, false_and, ne_eq, not_false_eq_true, true_and, false_or, hown]
  | take g' =>
    rw [Bus.owner?_apply_of_not_registers (.take g') (fun _ h ↦ nomatch h) (fun _ h ↦ nomatch h)]
    simp only [reduceCtorEq, false_and, ne_eq, not_false_eq_true, true_and, false_or, hown]

/-- After any steps from an empty bus, the bus is wired, its counter counts the registrations, and
each identity's owner is its live registration. -/
theorem owner?_perform (steps : List BusStep) :
    Wired (Bus.empty.perform steps) ∧ (Bus.empty.perform steps).generations = registrations steps ∧
      ∀ identity g, ((Bus.empty.perform steps).owner? identity).map (·.generation) = some g ↔
        LiveRegistration steps identity g := by
  induction steps using List.reverseRecOn with
  | nil =>
    refine ⟨Wired.empty, rfl, fun identity g ↦ ⟨(fun h ↦ nomatch h), ?_⟩⟩
    rintro ⟨before, after, heq, -⟩
    simp at heq
  | append_singleton steps st ih =>
    obtain ⟨hw, hgens, hown⟩ := ih
    rw [Bus.perform_append_singleton]
    exact ⟨hw.apply st, by rw [Bus.generations_apply, hgens, registrations_append_singleton],
      owner?_apply_live hw hgens hown st⟩

/-! ### What one mailbox holds, step by step -/

namespace Bus

variable {b : Bus}

/-- The mailbox of generation `g` is dropped, its generation handed out: nothing will be found
under `g` again. -/
def Gone (b : Bus) (g : Nat) : Prop := b.box? g = none ∧ g < b.generations

/-- No mailbox of generation `g` holds an identity, and none will be registered under `g`. -/
def Unowned (b : Bus) (g : Nat) : Prop :=
  (∀ m ∈ b.boxes, m.generation = g → m.registered = false) ∧ g < b.generations

/-- Signals, queries and takes change at most what one mailbox holds. -/
theorem apply_refills (st : BusStep) (hreg : ∀ identity, st ≠ .register identity)
    (hdrop : ∀ g, st ≠ .drop g) :
    (st.apply b).boxes = b.boxes ∨
      ∃ g f, Mailbox.KeepsAddress f ∧ (st.apply b).boxes = (b.modifyBox g f).boxes := by
  cases st with
  | register identity => exact absurd rfl (hreg identity)
  | drop g => exact absurd rfl (hdrop g)
  | signal identity s =>
    rw [BusStep.apply_signal]
    rcases signal_cases b identity s with ⟨-, he⟩ | ⟨m, -, he⟩ <;> rw [he]
    · exact .inl rfl
    · exact .inr ⟨m.generation, fun m ↦ { m with signals := m.signals ++ [s] },
        fun _ ↦ ⟨rfl, rfl, rfl⟩, rfl⟩
  | query identity name =>
    rw [BusStep.apply_query]
    rcases ask_cases b identity name with ⟨-, he⟩ | ⟨m, -, he⟩ <;> rw [he]
    · exact .inl rfl
    · exact .inr ⟨m.generation, fun m ↦ { m with queries := m.queries ++ [⟨b.tickets, name⟩] },
        fun _ ↦ ⟨rfl, rfl, rfl⟩, rfl⟩
  | take g =>
    rw [BusStep.apply_take]
    rcases next_bus b g with he | ⟨f, hf, he⟩ <;> rw [he]
    · exact .inl rfl
    · exact .inr ⟨g, f, hf, rfl⟩

/-- Every mailbox after a step is one from before it, with its generation and identity and
registered only if that one was, or the one the step registered, under the counter. -/
theorem mem_apply (st : BusStep) {m : Mailbox} (hm : m ∈ (st.apply b).boxes) :
    (∃ m₀ ∈ b.boxes, m.generation = m₀.generation ∧ m.identity = m₀.identity ∧
      (m.registered = true → m₀.registered = true)) ∨ m.generation = b.generations := by
  -- registrations and drops first; every other step refills one mailbox at most
  by_cases hreg : ∃ identity, st = .register identity
  · obtain ⟨identity, rfl⟩ := hreg
    rcases mem_register.mp hm with ⟨m₀, hm₀, rfl⟩ | rfl
    · refine .inl ⟨m₀, hm₀, ?_⟩
      by_cases hid : m₀.identity = identity <;> simp [hid]
    · exact .inr rfl
  by_cases hdrop : ∃ g, st = .drop g
  · obtain ⟨g, rfl⟩ := hdrop
    exact .inl ⟨m, (mem_release.mp hm).1, rfl, rfl, id⟩
  rcases apply_refills st (fun i h ↦ hreg ⟨i, h⟩) (fun g h ↦ hdrop ⟨g, h⟩) with he | ⟨g, f, hf, he⟩
  · exact .inl ⟨m, he ▸ hm, rfl, rfl, id⟩
  · rw [he] at hm
    obtain ⟨m₀, hm₀, rfl⟩ := mem_modifyBox.mp hm
    obtain ⟨hgen, hid, hreg'⟩ := hf.at_ g m₀
    exact .inl ⟨m₀, hm₀, hgen, hid, fun h ↦ hreg' ▸ h⟩

theorem queued_of_none {g : Nat} (h : b.box? g = none) : b.queued g = [] := by
  simp [queued, h]

theorem queued_of_mem (hw : Wired b) {m : Mailbox} (hm : m ∈ b.boxes) :
    b.queued m.generation = m.signals := by
  simp [queued, box?_of_mem hw hm]

/-- A change to a mailbox that keeps its signals keeps what every generation holds. -/
theorem queued_modifyBox {g' : Nat} {f : Mailbox → Mailbox}
    (hf : ∀ m, (f m).generation = m.generation ∧ (f m).signals = m.signals) (g : Nat) :
    (b.modifyBox g' f).queued g = b.queued g := by
  unfold queued
  rw [box?_modifyBox b g' fun m ↦ (hf m).1]
  split
  · cases b.box? g with
    | none => rfl
    | some m => simp [(hf m).2]
  · rfl

theorem queued_register (hw : Wired b) (identity : String) (g : Nat) :
    (b.register identity).1.queued g = b.queued g := by
  have hw' := hw.register identity
  cases hbox : b.box? g with
  | none =>
    rw [queued_of_none hbox]
    cases hbox' : (b.register identity).1.box? g with
    | none => exact queued_of_none hbox'
    | some m =>
      obtain ⟨hm, rfl⟩ := mem_of_box? hbox'
      rcases mem_register.mp hm with ⟨m₀, hm₀, rfl⟩ | rfl
      · -- a cleared mailbox keeps its generation, which was not in use
        refine absurd ?_ (box?_eq_none_iff.mp hbox m₀ hm₀)
        split <;> rfl
      · simp [queued, hbox']
  | some m =>
    obtain ⟨hm, rfl⟩ := mem_of_box? hbox
    have hm' : (if m.identity == identity then { m with registered := false } else m) ∈
        (b.register identity).1.boxes := mem_register.mpr (.inl ⟨m, hm, rfl⟩)
    have hq := queued_of_mem hw' hm'
    rw [queued_of_mem hw hm]
    split at hq <;> exact hq

theorem box?_release (hw : Wired b) (g' g : Nat) :
    (b.release g').box? g = if g = g' then none else b.box? g := by
  split
  · rename_i hg
    subst hg
    exact box?_release_self b g
  · rename_i hg
    cases hbox : b.box? g with
    | none => exact box?_eq_none_iff.mpr fun m hm ↦ box?_eq_none_iff.mp hbox m (mem_release.mp hm).1
    | some m =>
      obtain ⟨hm, rfl⟩ := mem_of_box? hbox
      exact box?_of_mem (hw.release g') (mem_release.mpr ⟨hm, hg⟩)

theorem queued_release (hw : Wired b) (g' g : Nat) :
    (b.release g').queued g = if g = g' then [] else b.queued g := by
  unfold queued
  rw [box?_release hw]
  split <;> rfl

/-- A signal lands behind what its owner's mailbox holds. -/
theorem queued_signal (hw : Wired b) (identity : String) (s : Signal) (g : Nat) :
    (b.signal identity s).1.queued g = b.queued g ++ BusStep.delivered g b (.signal identity s) := by
  rcases signal_cases b identity s with ⟨hown, he⟩ | ⟨m, hown, he⟩
  · simp [he, BusStep.delivered, hown]
  · rw [he, BusStep.delivered, hown]
    obtain ⟨hm, -, -⟩ := (owner?_eq_some_iff hw).mp hown
    unfold queued
    rw [box?_modifyBox b m.generation (f := fun m ↦ { m with signals := m.signals ++ [s] })
      fun _ ↦ rfl]
    by_cases hg : g = m.generation
    · subst hg
      simp [box?_of_mem hw hm]
    · simp [hg, Ne.symm hg]

theorem queued_ask (identity name : String) (g : Nat) :
    (b.ask identity name).1.queued g = b.queued g := by
  rcases ask_cases b identity name with ⟨-, he⟩ | ⟨m, -, he⟩ <;> rw [he]
  exact queued_modifyBox (f := fun m ↦ { m with queries := m.queries ++ [⟨b.tickets, name⟩] })
    (fun _ ↦ ⟨rfl, rfl⟩) g

/-- What a take gives out of a mailbox comes off the front of what it holds. -/
theorem queued_next (g' g : Nat) :
    BusStep.taken g b (.take g') ++ (b.next g').1.queued g = b.queued g := by
  by_cases hg : g' = g
  · subst hg
    rcases next_cases b g' with ⟨-, hnext⟩ | ⟨m, q, qs, -, -, hnext⟩ |
        ⟨m, s, ss, hbox, -, hs, hnext⟩ | ⟨m, -, -, -, hnext⟩
    · simp only [BusStep.taken, if_pos, hnext, List.nil_append]
    · simp only [BusStep.taken, if_pos, hnext, List.nil_append]
      exact queued_modifyBox (f := fun m ↦ { m with queries := qs }) (fun _ ↦ ⟨rfl, rfl⟩) g'
    · -- the first signal comes off the front
      simp only [BusStep.taken, if_pos, hnext]
      unfold queued
      rw [box?_modifyBox b g' (f := fun m ↦ { m with signals := ss }) fun _ ↦ rfl, if_pos rfl, hbox]
      simp [hs]
    · simp only [BusStep.taken, if_pos, hnext]
      cases m.registered <;> rfl
  · rcases next_bus b g' with he | ⟨f, hf, he⟩ <;> simp only [BusStep.taken, if_neg hg, he,
      List.nil_append]
    unfold queued
    rw [box?_modifyBox b g' fun m ↦ (hf m).1, if_neg (Ne.symm hg)]

/-- One step keeps the account of the mailbox of generation `g`: what it held and was handed is
what was taken from it and what it still holds; or, when the step drops it, what was discarded with
it, and it is gone. -/
theorem queued_apply (hw : Wired b) (g : Nat) (st : BusStep) :
    (b.queued g ++ st.delivered g b = st.taken g b ++ (st.apply b).queued g ∧
        st.discarded g b = []) ∨
      (b.queued g ++ st.delivered g b = st.taken g b ++ st.discarded g b ∧ (st.apply b).Gone g) := by
  cases st with
  | register identity =>
    exact .inl ⟨by simp [BusStep.delivered, BusStep.taken, BusStep.apply, queued_register hw], rfl⟩
  | drop g' =>
    by_cases hg : g' = g
    · subst hg
      cases hbox : b.box? g' with
      | none =>
        refine .inl ⟨?_, ?_⟩
        · simp [BusStep.delivered, BusStep.taken, BusStep.apply, queued_release hw,
            queued_of_none hbox]
        · simp [BusStep.discarded, queued_of_none hbox]
      | some m =>
        obtain ⟨hm, rfl⟩ := mem_of_box? hbox
        refine .inr ⟨by simp [BusStep.delivered, BusStep.taken, BusStep.discarded], ?_, ?_⟩
        · show (b.release m.generation).box? m.generation = none
          rw [box?_release hw, if_pos rfl]
        · show m.generation < (b.release m.generation).generations
          rw [(release_boxes b _).2]
          exact hw.below m hm
    · refine .inl ⟨?_, by simp [BusStep.discarded, hg]⟩
      simp [BusStep.delivered, BusStep.taken, BusStep.apply, queued_release hw, Ne.symm hg]
  | signal identity s =>
    exact .inl ⟨by simp [BusStep.taken, BusStep.apply, queued_signal hw], rfl⟩
  | query identity name =>
    exact .inl ⟨by simp [BusStep.delivered, BusStep.taken, BusStep.apply, queued_ask], rfl⟩
  | take g' =>
    exact .inl ⟨by simp [BusStep.delivered, BusStep.apply, queued_next], rfl⟩

/-- A gone mailbox stays gone, and no step hands it, takes from it or discards anything. -/
theorem Gone.apply {g : Nat} (hgone : b.Gone g) (st : BusStep) :
    (st.apply b).Gone g ∧ st.delivered g b = [] ∧ st.taken g b = [] ∧ st.discarded g b = [] := by
  obtain ⟨hbox, hlt⟩ := hgone
  refine ⟨⟨box?_eq_none_iff.mpr fun m hm ↦ ?_, ?_⟩, ?_, ?_, ?_⟩
  · rcases mem_apply st hm with ⟨m₀, hm₀, hgen, -, -⟩ | hgen
    · rw [hgen]
      exact box?_eq_none_iff.mp hbox m₀ hm₀
    · omega
  · rw [generations_apply]
    omega
  · cases st with
    | signal identity s =>
      simp only [BusStep.delivered]
      cases hown : b.owner? identity with
      | none => rfl
      | some m =>
        have hne := box?_eq_none_iff.mp hbox m (List.mem_of_find?_eq_some hown)
        simp [hne]
    | _ => rfl
  · cases st with
    | take g' =>
      simp only [BusStep.taken]
      split
      · rename_i hg
        subst hg
        rcases next_cases b g' with ⟨-, hnext⟩ | ⟨m, -, -, hbox', -⟩ | ⟨m, -, -, hbox', -⟩ |
            ⟨m, hbox', -⟩
        · rw [hnext]
        all_goals simp [hbox] at hbox'
      · rfl
    | _ => rfl
  · cases st with
    | drop g' =>
      simp [BusStep.discarded, queued_of_none hbox]
    | _ => rfl

/-- From a gone mailbox's point of view, nothing more happens. -/
theorem Gone.along {g : Nat} (hgone : b.Gone g) (steps : List BusStep) :
    along (BusStep.delivered g) b steps = [] ∧ along (BusStep.taken g) b steps = [] ∧
      along (BusStep.discarded g) b steps = [] ∧ (b.perform steps).Gone g := by
  induction steps generalizing b with
  | nil => exact ⟨rfl, rfl, rfl, hgone⟩
  | cons st rest ih =>
    obtain ⟨hgone', hd, ht, hx⟩ := hgone.apply st
    obtain ⟨hd', ht', hx', hperf⟩ := ih hgone'
    simp only [along, hd, ht, hx, hd', ht', hx', List.nil_append, perform_cons, true_and]
    exact hperf

/-- Every signal handed to the mailbox of generation `g` along the steps, behind what it held, is
taken from it in order, discarded when it is dropped, or still held. -/
theorem queued_along (hw : Wired b) (g : Nat) (steps : List BusStep) :
    b.queued g ++ along (BusStep.delivered g) b steps =
      along (BusStep.taken g) b steps ++ along (BusStep.discarded g) b steps ++
        (b.perform steps).queued g := by
  induction steps generalizing b with
  | nil => simp [along]
  | cons st rest ih =>
    simp only [along, perform_cons]
    rcases queued_apply hw g st with ⟨hstep, hx⟩ | ⟨hstep, hgone⟩
    · -- the mailbox carries on: its account continues from the next bus
      rw [hx, ← List.append_assoc, hstep, List.append_assoc, ih (hw.apply st)]
      simp
    · -- the mailbox is dropped here and nothing happens to it afterwards
      obtain ⟨hd, ht, hx, hperf⟩ := hgone.along rest
      rw [hd, ht, hx, queued_of_none hperf.1, ← List.append_assoc, hstep]
      simp

/-- An unowned generation stays unowned, and no step hands its mailbox anything. -/
theorem Unowned.apply {g : Nat} (hu : b.Unowned g) (st : BusStep) :
    (st.apply b).Unowned g ∧ st.delivered g b = [] := by
  obtain ⟨hfree, hlt⟩ := hu
  refine ⟨⟨fun m hm hgen ↦ ?_, ?_⟩, ?_⟩
  · rcases mem_apply st hm with ⟨m₀, hm₀, hgen₀, -, hreg⟩ | hgen'
    · cases hr : m.registered with
      | false => rfl
      | true => rw [hfree m₀ hm₀ (hgen₀ ▸ hgen)] at hreg; exact absurd (hreg hr) (by decide)
    · omega
  · rw [generations_apply]
    omega
  · cases st with
    | signal identity s =>
      simp only [BusStep.delivered]
      cases hown : b.owner? identity with
      | none => rfl
      | some m =>
        have hp := List.find?_some hown
        simp only [Bool.and_eq_true] at hp
        have hne : m.generation ≠ g := fun hgen ↦ by
          rw [hfree m (List.mem_of_find?_eq_some hown) hgen] at hp
          exact absurd hp.1 (by decide)
        simp [hne]
    | _ => rfl

theorem Unowned.along {g : Nat} (hu : b.Unowned g) (steps : List BusStep) :
    along (BusStep.delivered g) b steps = [] := by
  induction steps generalizing b with
  | nil => rfl
  | cons st rest ih =>
    obtain ⟨hu', hd⟩ := hu.apply st
    simp only [along, hd, ih hu', List.nil_append]

/-- A displaced mailbox's generation is unowned. -/
theorem unowned_of_displaced (hw : Wired b) {g : Nat} {m : Mailbox} (hbox : b.box? g = some m)
    (hreg : m.registered = false) : b.Unowned g := by
  obtain ⟨hm, rfl⟩ := mem_of_box? hbox
  refine ⟨fun m' hm' hgen ↦ ?_, hw.below m hm⟩
  rw [List.inj_on_of_nodup_map hw.distinct hm' hm hgen]
  exact hreg

/-! ### Signals, queries and displaced mailboxes -/

theorem signal_ok_iff (b : Bus) (identity : String) (s : Signal) :
    (b.signal identity s).2 = .ok () ↔ (b.owner? identity).isSome := by
  rcases signal_cases b identity s with ⟨hown, he⟩ | ⟨m, hown, he⟩ <;> simp [he, hown]

/-- A signal changes the owner's mailbox alone, where it lands behind what the mailbox holds. -/
theorem signal_box? (hw : Wired b) {identity : String} {m : Mailbox}
    (hown : b.owner? identity = some m) (s : Signal) (g : Nat) :
    (b.signal identity s).1.box? g =
      if g = m.generation then some { m with signals := m.signals ++ [s] } else b.box? g := by
  rcases signal_cases b identity s with ⟨hnone, -⟩ | ⟨m', hown', he⟩
  · rw [hown] at hnone
    cases hnone
  · rw [hown, Option.some.injEq] at hown'
    subst hown'
    rw [he, box?_modifyBox b m.generation (f := fun m ↦ { m with signals := m.signals ++ [s] })
      fun _ ↦ rfl]
    split
    · rename_i hg
      subst hg
      rw [box?_of_mem hw ((owner?_eq_some_iff hw).mp hown).1]
      rfl
    · rfl

theorem ask_of_none {identity : String} (h : b.owner? identity = none) (name : String) :
    b.ask identity name = (b, .error (.noMailbox identity)) := by
  rcases ask_cases b identity name with ⟨-, he⟩ | ⟨m, hown, -⟩
  · exact he
  · rw [h] at hown
    cases hown

/-- A query is left with the owner's mailbox alone, under the next ticket. -/
theorem ask_box? (hw : Wired b) {identity : String} {m : Mailbox}
    (hown : b.owner? identity = some m) (name : String) (g : Nat) :
    (b.ask identity name).1.box? g =
      if g = m.generation then some { m with queries := m.queries ++ [⟨b.tickets, name⟩] }
      else b.box? g := by
  rcases ask_cases b identity name with ⟨hnone, -⟩ | ⟨m', hown', he⟩
  · rw [hown] at hnone
    cases hnone
  · rw [hown, Option.some.injEq] at hown'
    subst hown'
    rw [he]
    -- the ticket counter is no part of the mailboxes
    show (b.modifyBox m.generation _).box? g = _
    rw [box?_modifyBox b m.generation
      (f := fun m ↦ { m with queries := m.queries ++ [⟨b.tickets, name⟩] }) fun _ ↦ rfl]
    split
    · rename_i hg
      subst hg
      rw [box?_of_mem hw ((owner?_eq_some_iff hw).mp hown).1]
      rfl
    · rfl

/-- Dropping a displaced mailbox leaves every owner in place: the mailbox holds no identity, and
no other mailbox shares its generation. -/
theorem owner?_release_displaced (hw : Wired b) {g : Nat} {m : Mailbox}
    (hbox : b.box? g = some m) (hreg : m.registered = false) (identity : String) :
    (b.release g).owner? identity = b.owner? identity := by
  obtain ⟨hm, rfl⟩ := mem_of_box? hbox
  apply Option.ext
  intro m'
  rw [owner?_eq_some_iff (hw.release _), owner?_eq_some_iff hw, mem_release]
  constructor
  · rintro ⟨⟨hm', -⟩, hreg', hid⟩
    exact ⟨hm', hreg', hid⟩
  · rintro ⟨hm', hreg', hid⟩
    refine ⟨⟨hm', fun hgen ↦ ?_⟩, hreg', hid⟩
    rw [List.inj_on_of_nodup_map hw.distinct hm' hm hgen, hreg] at hreg'
    exact Bool.false_ne_true hreg'

/-- A displaced mailbox, once drained, reports itself closed. -/
theorem next_displaced {g : Nat} {m : Mailbox} (hbox : b.box? g = some m)
    (hreg : m.registered = false) (hq : m.queries = []) (hs : m.signals = []) :
    b.next g = (b, some .closed) := by
  simp [next, hbox, hq, hs, hreg]

/-- A displaced mailbox is handed nothing more, and what it held is taken from it in order,
discarded with it, or still held. -/
theorem displaced_drains (hw : Wired b) {g : Nat} {m : Mailbox} (hbox : b.box? g = some m)
    (hreg : m.registered = false) (more : List BusStep) :
    along (BusStep.delivered g) b more = [] ∧
      along (BusStep.taken g) b more ++ along (BusStep.discarded g) b more ++
        (b.perform more).queued g = m.signals := by
  have hnothing := (unowned_of_displaced hw hbox hreg).along more
  refine ⟨hnothing, ?_⟩
  have h := queued_along hw g more
  rw [hnothing, List.append_nil] at h
  rw [← h]
  simp [queued, hbox]

end Bus

/-- The addressing of the bus, after any atomic steps from an empty bus. An identity's owner is its
most recent registration unless that mailbox was dropped since. Dropping a displaced mailbox leaves
every owner in place. A signal is accepted exactly when its identity has an owner, and lands behind
what the owner's mailbox holds and nowhere else; what a mailbox is handed is taken from it in that
order, discarded with it, or still held. A displaced mailbox is handed nothing more, gives out what
it held, and once drained reports itself closed. A query reaches the owner alone. -/
theorem bus_addressing (steps : List BusStep) :
    let b := Bus.empty.perform steps
    (∀ identity g, (b.owner? identity).map (·.generation) = some g ↔
        LiveRegistration steps identity g) ∧
    (∀ g m, b.box? g = some m → m.registered = false → ∀ identity,
        (b.release g).owner? identity = b.owner? identity) ∧
    (∀ identity s, ((b.signal identity s).2 = .ok () ↔ (b.owner? identity).isSome) ∧
        ∀ m, b.owner? identity = some m → ∀ g, (b.signal identity s).1.box? g =
          if g = m.generation then some { m with signals := m.signals ++ [s] } else b.box? g) ∧
    (∀ g, Bus.along (BusStep.delivered g) Bus.empty steps =
        Bus.along (BusStep.taken g) Bus.empty steps ++
          Bus.along (BusStep.discarded g) Bus.empty steps ++ b.queued g) ∧
    (∀ g m, b.box? g = some m → m.registered = false → ∀ more,
        Bus.along (BusStep.delivered g) b more = [] ∧
        Bus.along (BusStep.taken g) b more ++ Bus.along (BusStep.discarded g) b more ++
          (b.perform more).queued g = m.signals ∧
        (m.queries = [] → m.signals = [] → b.next g = (b, some .closed))) ∧
    (∀ identity name, (b.owner? identity = none →
          b.ask identity name = (b, .error (.noMailbox identity))) ∧
        ∀ m, b.owner? identity = some m → ∀ g, (b.ask identity name).1.box? g =
          if g = m.generation then some { m with queries := m.queries ++ [⟨b.tickets, name⟩] }
          else b.box? g) := by
  intro b
  obtain ⟨hw, -, hown⟩ := owner?_perform steps
  refine ⟨hown, fun g m hbox hreg ↦ Bus.owner?_release_displaced hw hbox hreg,
    fun identity s ↦ ⟨Bus.signal_ok_iff b identity s, fun m hm ↦ Bus.signal_box? hw hm s⟩,
    fun g ↦ ?_, fun g m hbox hreg more ↦ ?_,
    fun identity name ↦ ⟨fun h ↦ Bus.ask_of_none h name, fun m hm ↦ Bus.ask_box? hw hm name⟩⟩
  · -- an empty bus holds nothing, so everything handed out is accounted for
    have h := Bus.queued_along Wired.empty g steps
    rwa [show Bus.empty.queued g = [] from rfl, List.nil_append] at h
  · obtain ⟨hnothing, hdrains⟩ := Bus.displaced_drains hw hbox hreg more
    exact ⟨hnothing, hdrains, Bus.next_displaced hbox hreg⟩

/-- Registering an identity twice displaces the first mailbox: the second becomes the owner, the
first reports itself closed, dropping it leaves the successor registered, and it is handed no
later signal. -/
theorem displaced_mailbox_spares_successor :
    let b := Bus.empty.perform [.register "coordinator", .register "coordinator"]
    (b.owner? "coordinator").map (·.generation) = some 1 ∧
      b.next 0 = (b, some .closed) ∧
      (b.release 0).owner? "coordinator" = b.owner? "coordinator" ∧
      Bus.along (BusStep.delivered 0) b
        [.drop 0, .signal "coordinator" ⟨"ping", .null, ⟨0, 0⟩⟩] = [] := by
  intro b
  have hbox : b.box? 0 = some ⟨"coordinator", 0, [], [], false⟩ := rfl
  obtain ⟨hown, hrelease, -, -, hdisplaced, -⟩ :=
    bus_addressing [.register "coordinator", .register "coordinator"]
  exact ⟨(hown "coordinator" 1).mpr ⟨[.register "coordinator"], [], rfl, rfl, nofun, nofun⟩,
    (hdisplaced 0 _ hbox rfl []).2.2 rfl rfl, hrelease 0 _ hbox rfl "coordinator",
    (hdisplaced 0 _ hbox rfl _).1⟩

end SlotKeeper.Engine
