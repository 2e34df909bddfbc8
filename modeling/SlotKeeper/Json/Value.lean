/-!
# JSON values

A JSON value keeps the kind of each number as it was read: a non-negative integer that fits in
64 bits, a negative integer that fits in signed 64 bits, or a binary64 float. Decoders tell
these apart (`1` is an unsigned integer, `1.0` a float), so the kind is part of the value.

An object is a list of members. `Json.record` builds one in key order without duplicate keys,
the last of two equal keys winning: that is the shape every object read from text has, and
decoders visit members in that order.
-/

namespace SlotKeeper

/-- A JSON number with its kind. -/
inductive Number where
  /-- A non-negative integer below `2^64`. -/
  | unsigned (n : Nat)
  /-- A negative integer of at least `-2^63`. -/
  | signed (n : Int)
  /-- A finite binary64 float. -/
  | float (x : Float)
  deriving Inhabited, Repr

/-- A JSON value. -/
inductive Json where
  | null
  | bool (b : Bool)
  | number (n : Number)
  | string (s : String)
  | array (items : List Json)
  | object (members : List (String × Json))
  deriving Inhabited, Repr

namespace Json

/-- Inserts a member into a key-ordered member list, replacing a member of the same key. -/
def insertMember (key : String) (value : Json) : List (String × Json) → List (String × Json)
  | [] => [(key, value)]
  | (k, v) :: rest =>
    if key = k then (key, value) :: rest
    else if key < k then (key, value) :: (k, v) :: rest
    else (k, v) :: insertMember key value rest

/-- An object from members in any order: sorted by key, the last of equal keys winning. -/
def record (members : List (String × Json)) : Json :=
  object (members.foldl (fun acc m => insertMember m.1 m.2 acc) [])

/-- A non-negative integer. -/
def nat (n : Nat) : Json := number (.unsigned n)

/-- An integer of either sign. -/
def int (n : Int) : Json :=
  if 0 ≤ n then number (.unsigned n.toNat) else number (.signed n)

/-- An optional value, `null` when absent. -/
def opt {α : Type} (f : α → Json) : Option α → Json
  | some a => f a
  | none => null

/-- The member of an object under `key`. -/
def field? (j : Json) (key : String) : Option Json :=
  match j with
  | object members => (members.find? (·.1 == key)).map (·.2)
  | _ => none

/-- The members of an object, or none for other values. -/
def members? : Json → Option (List (String × Json))
  | object members => some members
  | _ => none

/-- The text of a string value. -/
def str? : Json → Option String
  | string s => some s
  | _ => none

/-- The items of an array. -/
def items? : Json → Option (List Json)
  | array items => some items
  | _ => none

/-- A float; values that are not finite are written as `null`. -/
def float (x : Float) : Json := if x.isFinite then number (.float x) else null

/-- Whether the value is `true`. -/
def isTrue : Json → Bool
  | bool true => true
  | _ => false

/-- Whether the value is `null`. -/
def isNull : Json → Bool
  | null => true
  | _ => false

/-- Adds or replaces a member of an object; other values are returned unchanged. -/
def setField (j : Json) (key : String) (value : Json) : Json :=
  match j with
  | object members => object (insertMember key value members)
  | other => other

/-- Removes a member of an object. -/
def eraseField (j : Json) (key : String) : Json :=
  match j with
  | object members => object (members.filter (·.1 != key))
  | other => other

end Json

end SlotKeeper
