import SlotKeeper.Store.Memory

/-!
# Planned store failures

A fault plan makes chosen store operations fail on purpose, to see how the engine copes. A plan
for one operation lets a number of calls through, then makes a number of calls fail with the
database error `injected fault`; for loading a log it may instead hand back the log without its
first event. A new plan for an operation replaces the old one.
-/

namespace SlotKeeper.Store

/-- The operations of an event store. -/
inductive Operation where
  | startRun | currentRun | appendEvents | loadEvents | continueAsNew | closeRun
  deriving DecidableEq, Repr

namespace Operation

/-- The snake-case name of an operation. -/
def name : Operation → String
  | .startRun => "start_run"
  | .currentRun => "current_run"
  | .appendEvents => "append_events"
  | .loadEvents => "load_events"
  | .continueAsNew => "continue_as_new"
  | .closeRun => "close_run"

/-- Every operation. -/
def all : List Operation :=
  [.startRun, .currentRun, .appendEvents, .loadEvents, .continueAsNew, .closeRun]

/-- The operation with this name. -/
def ofName? (s : String) : Option Operation := all.find? (·.name == s)

end Operation

/-- A plan for one operation: calls to let through first, calls to spoil next, and whether the
spoiled calls lose the first event instead of failing. Only a load has events to lose; the
spoiled calls of the other operations then go through unharmed. -/
structure FaultPlan where
  operation : Operation
  letThrough : Nat
  spoil : Nat
  dropFirst : Bool
  deriving Repr

/-- What becomes of one call. -/
inductive Verdict where
  | pass
  | fail
  | dropFirst
  deriving DecidableEq, Repr

/-- The failure a spoiled call reports. -/
def injected : StoreError := .database "injected fault"

/-- The plans in force, at most one per operation. -/
structure Faults where
  plans : List FaultPlan
  deriving Repr

namespace Faults

/-- No plans. -/
def none : Faults := ⟨[]⟩

/-- Puts a plan in force, replacing the operation's previous plan. -/
def arm (fs : Faults) (p : FaultPlan) : Faults :=
  ⟨fs.plans.filter (·.operation != p.operation) ++ [p]⟩

/-- Decides one call of an operation and counts it against its plan. -/
def consult (fs : Faults) (op : Operation) : Faults × Verdict :=
  match fs.plans.find? (·.operation == op) with
  | some p =>
    if p.letThrough > 0 then (fs.arm { p with letThrough := p.letThrough - 1 }, .pass)
    else if p.spoil > 0 then
      (fs.arm { p with spoil := p.spoil - 1 },
        if p.dropFirst then (if op == .loadEvents then .dropFirst else .pass) else .fail)
    else (fs, .pass)
  | _ => (fs, .pass)

theorem consult_none (op : Operation) : (Faults.none.consult op).2 = .pass := rfl

end Faults

end SlotKeeper.Store
