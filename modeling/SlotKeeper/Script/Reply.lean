import SlotKeeper.Json.Decode

/-!
# Replies of the scripting interface

Every scripted request is answered by one JSON object. A failure is `{"error": kind, "message":
text}`, where the kind says which layer refused: `decode` for a value that does not fit its type,
`store` for a refused store operation, `panic` for an arithmetic or conversion fault, and
`driver` for a request the interface itself cannot follow.

`Reply` is the result of one scripted call: the members of a successful answer, or the failure
object.
-/

namespace SlotKeeper.Script

open Json

/-- A failure answer. -/
def failure (kind message : String) : Json :=
  Json.record [("error", .string kind), ("message", .string message)]

/-- The result of one scripted call: answer members or a failure object. -/
abbrev Reply := Except Json (List (String × Json))

/-- A failure of the interface itself. -/
def refuse {α : Type} (message : String) : Except Json α := .error (failure "driver" message)

/-- Lifts a decoding result, turning its failure into a `decode` answer. -/
def decoded {α : Type} (r : Except DecodeError α) : Except Json α :=
  match r with
  | .ok a => .ok a
  | .error e => .error (failure "decode" e.message)

/-- Decodes a value met directly. -/
def decodeWith {α : Type} (d : Decoder α) (j : Json) : Except Json α := decoded (decode d j)

/-- A member the interface needs. -/
def need (j : Json) (key : String) : Except Json Json :=
  match j.field? key with
  | some v => .ok v
  | none => refuse ("missing field " ++ key)

/-- A member the interface needs, decoded. -/
def needAs {α : Type} (j : Json) (key : String) (d : Decoder α) : Except Json α := do
  decodeWith d (← need j key)

/-- A member that may be absent, decoded when present. -/
def mayAs {α : Type} (j : Json) (key : String) (d : Decoder α) : Except Json (Option α) :=
  match j.field? key with
  | some v => (decodeWith d v).map some
  | none => .ok none

/-- A member that may be absent or `null`, decoded otherwise. -/
def mayHave {α : Type} (j : Json) (key : String) (d : Decoder α) : Except Json (Option α) :=
  match j.field? key with
  | some .null | none => .ok none
  | some v => (decodeWith d v).map some

/-- A text member the interface needs: an absent one is refused, one of another kind fails to
decode. -/
def needText (j : Json) (key : String) : Except Json String := needAs j key text

/-- Whether a member is present, whatever its value: such members are switches. -/
def mentions (j : Json) (key : String) : Bool := (j.field? key).isSome

/-- The steps of a scripted request, which the interface needs as an array. -/
def steps (j : Json) : Except Json (List Json) := do
  match ← need j "steps" with
  | .array items => .ok items
  | _ => refuse "steps must be an array"

/-- The steps of a scripted request, decoded as a sequence. -/
def stepList (j : Json) : Except Json (List Json) := needAs j "steps" (listOf anyValue)

/-- The answer object of a reply. -/
def Reply.toJson (r : Reply) : Json :=
  match r with
  | .ok members => Json.record members
  | .error e => e

/-- Adds members to an answer, failed or not. -/
def Reply.extend (r : Reply) (extra : List (String × Json)) : Json :=
  match r with
  | .ok members => Json.record (members ++ extra)
  | .error e => extra.foldl (fun acc (k, v) => acc.setField k v) e

/-- The answer of a whole request. -/
def finish (r : Except Json Json) : Json :=
  match r with
  | .ok j => j
  | .error e => e

end SlotKeeper.Script
