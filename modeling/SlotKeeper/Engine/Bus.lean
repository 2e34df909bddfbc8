import SlotKeeper.Engine.Error
import SlotKeeper.Workflow.Signal

/-!
# The signal bus

Every party (a workflow, a pool client, an observer) owns a mailbox registered on a shared bus
under a stable identity. Signals are fire-and-forget; queries are answered by the mailbox owner
through a ticket the asker waits on.

* Registering an identity creates a mailbox with the next generation number and displaces the
  identity's previous mailbox: the displaced mailbox keeps what it already received, hands it
  out, and then reports itself closed.
* A mailbox hands out its queries before its signals, each in arrival order.
* Dropping a mailbox unregisters its identity when it still holds it, and drops its unanswered
  queries: their askers learn that the query was dropped.
-/

namespace SlotKeeper.Engine

open Json Workflow

/-- A query waiting in a mailbox: the ticket its asker waits on and the query name. -/
structure Query where
  ticket : Nat
  name : String
  deriving Inhabited

/-- A mailbox: its identity and generation, what it holds, and whether it still holds its
identity. -/
structure Mailbox where
  identity : String
  generation : Nat
  queries : List Query
  signals : List Signal
  registered : Bool
  deriving Inhabited

/-- What a mailbox hands out next. -/
inductive Inbound where
  | query (q : Query)
  | signal (s : Signal)
  /-- The mailbox was displaced and holds nothing more. -/
  | closed
  deriving Inhabited

/-- The mailboxes alive, the generations and tickets handed out, and the answers of queries not
yet collected by their askers. -/
structure Bus where
  boxes : List Mailbox
  generations : Nat
  tickets : Nat
  answers : List (Nat × Except QueryError Json)
  deriving Inhabited

namespace Bus

/-- A bus with no mailboxes. -/
def empty : Bus := ⟨[], 0, 0, []⟩

/-- The mailbox holding an identity. -/
def owner? (b : Bus) (identity : String) : Option Mailbox :=
  b.boxes.find? fun m => m.registered && m.identity == identity

/-- Whether an identity has a mailbox. -/
def isRegistered (b : Bus) (identity : String) : Bool := (b.owner? identity).isSome

/-- The mailbox of a generation. -/
def box? (b : Bus) (generation : Nat) : Option Mailbox :=
  b.boxes.find? (·.generation == generation)

/-- Changes the mailbox of a generation. -/
def modifyBox (b : Bus) (generation : Nat) (f : Mailbox → Mailbox) : Bus :=
  { b with boxes := b.boxes.map fun m => if m.generation == generation then f m else m }

/-- Registers a mailbox under an identity, displacing its holder; answers its generation. -/
def register (b : Bus) (identity : String) : Bus × Nat :=
  let g := b.generations
  let boxes := b.boxes.map fun m =>
    if m.identity == identity then { m with registered := false } else m
  ({ b with boxes := boxes ++ [⟨identity, g, [], [], true⟩], generations := g + 1 }, g)

/-- Delivers a signal to the mailbox holding an identity. -/
def signal (b : Bus) (identity : String) (s : Signal) : Bus × Except DeliveryError Unit :=
  match b.owner? identity with
  | none => (b, .error (.noMailbox identity))
  | some m => (b.modifyBox m.generation fun m => { m with signals := m.signals ++ [s] }, .ok ())

/-- Leaves a query with the mailbox holding an identity; answers the ticket to wait on. -/
def ask (b : Bus) (identity : String) (name : String) : Bus × Except DeliveryError Nat :=
  match b.owner? identity with
  | none => (b, .error (.noMailbox identity))
  | some m =>
    let t := b.tickets
    ({ b.modifyBox m.generation (fun m => { m with queries := m.queries ++ [⟨t, name⟩] }) with
      tickets := t + 1 }, .ok t)

/-- Whether a mailbox has something to hand out (a closed mailbox hands out its closing). -/
def ready (b : Bus) (generation : Nat) : Bool :=
  match b.box? generation with
  | some m => !m.queries.isEmpty || !m.signals.isEmpty || !m.registered
  | none => false

/-- Takes what a mailbox hands out next: queries first, then signals, then its closing; `none`
while it is empty and still registered. -/
def next (b : Bus) (generation : Nat) : Bus × Option Inbound :=
  match b.box? generation with
  | none => (b, some .closed)
  | some m =>
    match m.queries, m.signals with
    | q :: qs, _ => (b.modifyBox generation fun m => { m with queries := qs }, some (.query q))
    | [], s :: ss => (b.modifyBox generation fun m => { m with signals := ss }, some (.signal s))
    | [], [] => (b, if m.registered then none else some .closed)

/-- Records the answer to a query. -/
def answer (b : Bus) (ticket : Nat) (r : Except QueryError Json) : Bus :=
  { b with answers := b.answers ++ [(ticket, r)] }

/-- Drops a mailbox: its identity is freed if it still holds it, and its unanswered queries are
answered as dropped. -/
def release (b : Bus) (generation : Nat) : Bus :=
  match b.box? generation with
  | none => b
  | some m =>
    let b := { b with boxes := b.boxes.filter (·.generation != generation) }
    m.queries.foldl (fun b q => b.answer q.ticket (.error (.dropped m.identity))) b

/-- Collects the answer to a ticket, if there is one yet. -/
def collect (b : Bus) (ticket : Nat) : Bus × Option (Except QueryError Json) :=
  match b.answers.find? (·.1 == ticket) with
  | some (_, r) => ({ b with answers := b.answers.filter (·.1 != ticket) }, some r)
  | none => (b, none)

/-- Whether a ticket has been answered. -/
def answered (b : Bus) (ticket : Nat) : Bool := b.answers.any (·.1 == ticket)

theorem register_holds (b : Bus) (identity : String) :
    ((b.register identity).1.owner? identity).isSome = true := by
  simp only [register, owner?]
  rw [List.find?_append]
  cases h : List.find? _ _ with
  | some m => simp
  | none => simp

end Bus

end SlotKeeper.Engine
