import SlotKeeper.Workflow.Event
import SlotKeeper.Workflow.Fault

/-!
# Workflow programs

A workflow program is a deterministic state machine over inputs `ι` and states `σ`. A run starts
from an input (fresh, replayed from its log, or handed over by its predecessor), reacts to each
signal and each tick of its periodic timer with new state and actions, answers read-only
queries, and hands a snapshot of itself, again an input, to its successor. A signal handler may
crash instead, as an arithmetic fault does; the run's task then ends on the spot.

Handlers see the current instant only as an argument, so replaying a log rebuilds the same state
and the same actions.
-/

namespace SlotKeeper.Workflow

open Json

/-- A deterministic workflow over inputs `ι` and states `σ`. -/
structure Program (ι σ : Type) where
  /-- The type name stored with every run and checked before replay. -/
  typeName : String
  /-- Reads an input from its stored form. -/
  inputDecoder : Decoder ι
  /-- The stored form of an input. -/
  encode : ι → Json
  /-- The state a run starts in. -/
  new : ι → σ
  /-- How long the executor waits between ticks. -/
  interval : σ → Span
  /-- Reacts to a signal received at an instant, or crashes with the text of its fault. -/
  onSignal : σ → Signal → Instant → Except String (σ × List Action)
  /-- Reacts to a tick of the named timer at an instant. -/
  onTimer : σ → String → Instant → σ × List Action
  /-- Answers a query, or rejects it. -/
  onQuery : σ → String → Except Fault Json
  /-- The input handed to a successor run. -/
  snapshot : σ → ι

/-- The rejection of a query a program does not know. -/
def unknownQuery (query : String) : Fault :=
  (Fault.final ("unknown query type: " ++ query)).withCode "UNKNOWN_QUERY"

/-- The tick handler of a program that ignores its timer. -/
def ignoreTick {σ : Type} (s : σ) (_ : String) (_ : Instant) : σ × List Action := (s, [])

/-- The query handler of a program that answers no queries. -/
def answerNothing {σ : Type} (_ : σ) (query : String) : Except Fault Json := .error (unknownQuery query)

namespace Program

variable {ι σ : Type}

/-- The state rebuilt from a stored input. -/
def restore (p : Program ι σ) (input : Json) : Except DecodeError σ :=
  (decode p.inputDecoder input).map p.new

/-- Feeds an input event to the state: signals and ticks call their handlers; other events change
nothing and ask for nothing. Only a signal handler can crash. -/
def apply (p : Program ι σ) (s : σ) : Event → Except String (σ × List Action)
  | .signalled signal at_ => p.onSignal s signal at_
  | .ticked timer at_ => .ok (p.onTimer s timer at_)
  | _ => .ok (s, [])

theorem apply_delivered (p : Program ι σ) (s : σ) (n : Nat) :
    p.apply s (.delivered n) = .ok (s, []) :=
  rfl

end Program

end SlotKeeper.Workflow
