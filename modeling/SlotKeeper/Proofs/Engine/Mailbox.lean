import SlotKeeper.Engine.World

/-!
# Mailboxes on the bus

What each operation of the bus does to one mailbox, read through `box?`. Changing a mailbox never
changes its generation, so a mailbox is found under its generation until it is dropped, and the
changes made to one mailbox leave every other alone.

`next` takes from the front: the first query, else the first signal, else, once the mailbox holds
nothing more, its closing if it was displaced. A closing is therefore handed out only by a
mailbox that is gone or that lost its identity and was drained.
-/

namespace SlotKeeper.Engine.Bus

open Workflow

variable {b : Bus} {g : Nat} {f : Mailbox → Mailbox}

/-- The mailbox of a generation, among mailboxes changed at one generation. -/
theorem find?_map_modify (boxes : List Mailbox) (hf : ∀ m, (f m).generation = m.generation)
    (g' : Nat) :
    (boxes.map fun m => if m.generation == g then f m else m).find? (·.generation == g') =
      if g' = g then (boxes.find? (·.generation == g')).map f
      else boxes.find? (·.generation == g') := by
  induction boxes with
  | nil => split <;> rfl
  | cons m rest ih =>
    rw [List.map_cons, List.find?_cons, List.find?_cons, ih]
    by_cases hm : m.generation = g
    · -- the changed mailbox keeps its generation
      have hfm : (f m).generation = g := (hf m).trans hm
      have hsel : (m.generation == g) = true := by simp [hm]
      by_cases hg' : g' = g
      · subst hg'
        have hhit : (m.generation == g') = true := hsel
        have hfhit : ((f m).generation == g') = true := by simp [hfm]
        rw [if_pos hsel, hfhit, if_pos rfl, if_pos rfl, hhit]
        rfl
      · have hmiss : (m.generation == g') = false := by simpa [hm] using Ne.symm hg'
        have hfmiss : ((f m).generation == g') = false := by simpa [hfm] using Ne.symm hg'
        rw [if_pos hsel, hfmiss, if_neg hg', if_neg hg', hmiss]
    · have hskip : (m.generation == g) = false := by simpa using hm
      rw [if_neg (by simp [hskip])]
      by_cases hg' : g' = g
      · subst hg'
        rw [hskip, if_pos rfl]
      · rw [if_neg hg', if_neg hg']

/-- Changing the mailbox of a generation changes what is found there and nothing else. -/
theorem box?_modifyBox (b : Bus) (g : Nat) (hf : ∀ m, (f m).generation = m.generation)
    (g' : Nat) :
    (b.modifyBox g f).box? g' = if g' = g then (b.box? g').map f else b.box? g' :=
  find?_map_modify b.boxes hf g'

/-- What a mailbox hands out next, and the mailbox it leaves behind. -/
theorem next_cases (b : Bus) (g : Nat) :
    (b.box? g = none ∧ b.next g = (b, some .closed)) ∨
    (∃ m q qs, b.box? g = some m ∧ m.queries = q :: qs ∧
      b.next g = (b.modifyBox g fun m => { m with queries := qs }, some (.query q))) ∨
    (∃ m s ss, b.box? g = some m ∧ m.queries = [] ∧ m.signals = s :: ss ∧
      b.next g = (b.modifyBox g fun m => { m with signals := ss }, some (.signal s))) ∨
    (∃ m, b.box? g = some m ∧ m.queries = [] ∧ m.signals = [] ∧
      b.next g = (b, if m.registered then none else some .closed)) := by
  unfold next
  cases hbox : b.box? g with
  | none => exact .inl ⟨rfl, rfl⟩
  | some m =>
    dsimp only
    match hq : m.queries, hs : m.signals with
    | q :: qs, _ => exact .inr (.inl ⟨m, q, qs, rfl, hq, rfl⟩)
    | [], s :: ss => exact .inr (.inr (.inl ⟨m, s, ss, rfl, hq, hs, rfl⟩))
    | [], [] => exact .inr (.inr (.inr ⟨m, rfl, hq, hs, rfl⟩))

/-- Taking from a mailbox never drops it. -/
theorem box?_next_isSome (b : Bus) (g : Nat) :
    ((b.next g).1.box? g).isSome = (b.box? g).isSome := by
  rcases next_cases b g with ⟨-, hnext⟩ | ⟨m, q, qs, hbox, -, hnext⟩ |
      ⟨m, s, ss, hbox, -, -, hnext⟩ | ⟨m, -, -, -, hnext⟩ <;>
    rw [hnext]
  · rw [box?_modifyBox b g (f := fun m ↦ { m with queries := qs }) (fun _ ↦ rfl), if_pos rfl,
      hbox]
    rfl
  · rw [box?_modifyBox b g (f := fun m ↦ { m with signals := ss }) (fun _ ↦ rfl), if_pos rfl,
      hbox]
    rfl

/-- A closing is handed out only by a mailbox that is gone, or that was displaced and drained. -/
theorem next_closed (h : (b.next g).2 = some .closed) :
    b.box? g = none ∨
      ∃ m, b.box? g = some m ∧ m.queries = [] ∧ m.signals = [] ∧ m.registered = false := by
  rcases next_cases b g with ⟨hbox, -⟩ | ⟨m, q, qs, -, -, hnext⟩ |
      ⟨m, s, ss, -, -, -, hnext⟩ | ⟨m, hbox, hq, hs, hnext⟩
  · exact .inl hbox
  · rw [hnext] at h
    cases h
  · rw [hnext] at h
    cases h
  · rw [hnext] at h
    -- an empty mailbox still holding its identity hands out nothing
    cases hreg : m.registered with
    | true => rw [hreg, if_pos rfl] at h; cases h
    | false => exact .inr ⟨m, hbox, hq, hs, hreg⟩

/-- Recording an answer leaves the mailboxes alone. -/
@[simp] theorem box?_answer (b : Bus) (ticket : Nat) (r : Except QueryError Json) (g : Nat) :
    (b.answer ticket r).box? g = b.box? g :=
  rfl

end SlotKeeper.Engine.Bus

namespace SlotKeeper.Engine

/-- Bus work on the world: the answer of the bus, and the world with the bus changed. -/
theorem World.onBus_run {α : Type} (f : Bus → Bus × α) (w : World) :
    (World.onBus f).run w = ((f w.bus).2, { w with bus := (f w.bus).1 }) :=
  rfl

/-- Bus work followed by more work: the rest goes on with the answer of the bus, in the world with
the bus changed. -/
theorem World.onBus_bind_run {α β : Type} (f : Bus → Bus × α) (g : α → WorldM β) (w : World) :
    (World.onBus f >>= g).run w = (g (f w.bus).2).run { w with bus := (f w.bus).1 } :=
  rfl

end SlotKeeper.Engine
