import SlotKeeper.Engine.Error
import SlotKeeper.Pool.Request

/-!
# Pool failures

`PoolError` is what a pool client or operator sees go wrong. Rejections by the coordinator carry
a code and are final; every other failure (delivery, queries, decoding, the coordinator task) has
no code and may be retried.
-/

namespace SlotKeeper.Pool

open Workflow Engine

/-- A failure seen by a pool client or operator. -/
inductive PoolError where
  | timeout (message : String)
  | exhausted (message : String)
  | rejected (code message : String)
  | delivery (e : DeliveryError)
  | query (e : QueryError)
  | mailboxClosed (id : String)
  | decode (message : String)
  | executor (e : ExecutorError)
  | join (message : String)
  deriving DecidableEq, Repr

namespace PoolError

/-- The failure for a rejection with an optional code and message. -/
def ofRejection (code message : Option String) : PoolError :=
  let message := message.getD "slot request rejected"
  match code with
  | some c =>
    if c = timeoutCode then .timeout message
    else if c = exhaustedCode then .exhausted message
    else .rejected c message
  | none => .rejected "PoolRejected" message

/-- The text of a failure. -/
def message : PoolError → String
  | .timeout m => timeoutCode ++ ": " ++ m
  | .exhausted m => exhaustedCode ++ ": " ++ m
  | .rejected c m => c ++ ": " ++ m
  | .delivery e => "delivery error: " ++ e.message
  | .query e => "query error: " ++ e.message
  | .mailboxClosed id => "response mailbox for " ++ id ++ " closed"
  | .decode m => "decode error: " ++ m
  | .executor e => "coordinator error: " ++ e.message
  | .join m => "coordinator task failed: " ++ m

/-- The code of a rejection; none for other failures. -/
def code : PoolError → Option String
  | .timeout _ => some timeoutCode
  | .exhausted _ => some exhaustedCode
  | .rejected c _ => some c
  | _ => none

/-- Whether trying again may help: exactly the failures without a code. -/
def isRetryable (e : PoolError) : Bool := e.code.isNone

/-- The failure as a workflow fault, with its code and retryability. -/
def toFault (e : PoolError) : Fault :=
  let f : Fault := ⟨e.message, none, e.isRetryable⟩
  match e.code with
  | some c => f.withCode c
  | none => f

/-- The short name of the kind of failure. -/
def kind : PoolError → String
  | .timeout _ => "timeout"
  | .exhausted _ => "exhausted"
  | .rejected .. => "rejected"
  | .delivery _ => "delivery"
  | .query _ => "query"
  | .mailboxClosed _ => "mailbox_closed"
  | .decode _ => "decode"
  | .executor _ => "executor"
  | .join _ => "join"

end PoolError

end SlotKeeper.Pool
