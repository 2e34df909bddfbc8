import SlotKeeper.Store.Error
import SlotKeeper.Workflow.Fault

/-!
# Engine failures

Why a signal could not be delivered (`DeliveryError`), why a query got no answer
(`QueryError`), and why a workflow run stopped (`ExecutorError`), a crash of the program's own
handler included. Store and delivery failures
leave the run live, so running it again may succeed: they are the recoverable ones.
-/

namespace SlotKeeper.Engine

open Workflow Store

/-- Why a signal or a query could not be handed to a mailbox. -/
inductive DeliveryError where
  | noMailbox (id : String)
  | closed (id : String)
  deriving DecidableEq, Repr

/-- The text of a delivery failure. -/
def DeliveryError.message : DeliveryError → String
  | .noMailbox id => "no mailbox registered for " ++ id
  | .closed id => "mailbox for " ++ id ++ " is closed"

/-- Why a query got no answer. -/
inductive QueryError where
  | delivery (e : DeliveryError)
  | dropped (id : String)
  | rejected (f : Fault)
  deriving DecidableEq, Repr

/-- The text of a query failure. -/
def QueryError.message : QueryError → String
  | .delivery e => e.message
  | .dropped id => "query to " ++ id ++ " was dropped without an answer"
  | .rejected f => "query rejected: " ++ f.render

/-- Why a workflow run stopped. -/
inductive ExecutorError where
  | store (e : StoreError)
  | delivery (e : DeliveryError)
  | serialization (message : String)
  | replay (message : String)
  | typeMismatch (workflow expected actual : String)
  | mailboxClosed (id : String)
  /-- The program's handler crashed; the task ends without closing the run. -/
  | crashed (fault : String)
  deriving DecidableEq, Repr

namespace ExecutorError

/-- The text of a run failure. -/
def message : ExecutorError → String
  | .store e => "store error: " ++ e.message
  | .delivery e => "delivery error: " ++ e.message
  | .serialization m => "serialization error: " ++ m
  | .replay m => "replay error: " ++ m
  | .typeMismatch w e a => "workflow " ++ w ++ " is running type " ++ a ++ ", expected " ++ e
  | .mailboxClosed id => "mailbox for " ++ id ++ " was displaced by another owner"
  | .crashed fault => "workflow handler crashed: " ++ fault

/-- Whether running the workflow again may succeed. -/
def isRecoverable : ExecutorError → Bool
  | .store _ | .delivery _ => true
  | _ => false

/-- The short name of the kind of failure. -/
def kind : ExecutorError → String
  | .store _ => "store"
  | .delivery _ => "delivery"
  | .serialization _ => "serialization"
  | .replay _ => "replay"
  | .typeMismatch .. => "type_mismatch"
  | .mailboxClosed _ => "mailbox_closed"
  | .crashed _ => "join"

end ExecutorError

end SlotKeeper.Engine
