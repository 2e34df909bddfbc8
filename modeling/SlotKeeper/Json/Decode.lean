import SlotKeeper.Json.Value
import SlotKeeper.Json.Write
import SlotKeeper.Text.Unicode

/-!
# Decoding JSON into typed values

A decoder turns a JSON value into a typed value or a `DecodeError`. The error says what was
found and what was expected, in fixed wording (`DecodeError.message`):

* `invalid type: integer `7`, expected a string`: the value has the wrong kind;
* `invalid value: integer `-1`, expected u64`: right kind, out of range;
* `missing field `config``, `invalid length 0, expected struct X with 2 elements`,
  `unknown variant `x`, expected one of `a`, `b``.

A struct is read from an object or from an array. From an object its members are visited in key
order and the first member that fails decides the error; only then is the first absent required
field, in declaration order, reported. From an array the fields are taken by position.

Values met inside an internally tagged enum are first buffered. A buffered array that is too long
is reported as "expected N elements in sequence" rather than "fewer elements in array": `Origin`
records which reading applies.
-/

namespace SlotKeeper.Json

/-- Whether a value is read directly or from the buffer of an internally tagged enum. -/
inductive Origin where
  | direct
  | buffered
  deriving DecidableEq, Repr

/-- What a decoder found instead of what it wanted. -/
inductive Found where
  | bool (b : Bool)
  | unsigned (n : Nat)
  | signed (n : Int)
  | float (x : Float)
  | str (s : String)
  | unit
  | seq
  | map
  deriving Repr

/-- Why decoding failed. -/
inductive DecodeError where
  | invalidType (found : Found) (expected : String)
  | invalidValue (found : Found) (expected : String)
  | invalidLength (length : Nat) (expected : String)
  | unknownVariant (name : String) (variants : List String)
  | missingField (name : String)
  | custom (message : String)
  deriving Repr

/-- Lower-case hexadecimal digits without leading zeros. -/
def hexDigits (n : Nat) : String :=
  String.ofList (Nat.toDigits 16 n)

/-- One character of a quoted debug string. -/
def debugChar (c : Char) : String :=
  if c = '"' then "\\\""
  else if c = '\\' then "\\\\"
  else if c = '\n' then "\\n"
  else if c = '\r' then "\\r"
  else if c = '\t' then "\\t"
  else if c.toNat = 0 then "\\0"
  else if !Text.escapedInDiagnostics c then String.singleton c
  else "\\u" ++ "\x7b" ++ hexDigits c.toNat ++ "\x7d"

/-- A string quoted the way a diagnostic shows it. -/
def debugQuote (s : String) : String :=
  "\"" ++ String.join (s.toList.map debugChar) ++ "\""

/-- The text of a float in a diagnostic: the JSON number layout. -/
def floatText (x : Float) : String := FloatLayout.json.render x

/-- How a diagnostic names what was found. -/
def Found.describe : Found → String
  | .bool b => "boolean `" ++ (if b then "true" else "false") ++ "`"
  | .unsigned n => "integer `" ++ toString n ++ "`"
  | .signed n => "integer `" ++ (if n < 0 then "-" else "") ++ toString n.natAbs ++ "`"
  | .float x => "floating point `" ++ floatText x ++ "`"
  | .str s => "string " ++ debugQuote s
  | .unit => "null"
  | .seq => "sequence"
  | .map => "map"

/-- The alternatives of an unknown variant. -/
def oneOf : List String → String
  | [] => ""
  | [a] => "`" ++ a ++ "`"
  | [a, b] => "`" ++ a ++ "` or `" ++ b ++ "`"
  | names => "one of " ++ ", ".intercalate (names.map fun n => "`" ++ n ++ "`")

/-- The text of a decoding failure. -/
def DecodeError.message : DecodeError → String
  | .invalidType found expected =>
    "invalid type: " ++ found.describe ++ ", expected " ++ expected
  | .invalidValue found expected =>
    "invalid value: " ++ found.describe ++ ", expected " ++ expected
  | .invalidLength n expected => "invalid length " ++ toString n ++ ", expected " ++ expected
  | .unknownVariant name [] => "unknown variant `" ++ name ++ "`, there are no variants"
  | .unknownVariant name variants =>
    "unknown variant `" ++ name ++ "`, expected " ++ oneOf variants
  | .missingField name => "missing field `" ++ name ++ "`"
  | .custom message => message

/-- What a value is, as a diagnostic names it. -/
def found : Json → Found
  | .null => .unit
  | .bool b => .bool b
  | .number (.unsigned n) => .unsigned n
  | .number (.signed n) => .signed n
  | .number (.float x) => .float x
  | .string s => .str s
  | .array _ => .seq
  | .object _ => .map

/-- A decoder: reads a value met in a given origin. -/
abbrev Decoder (α : Type) := Origin → Json → Except DecodeError α

/-- The failure "found this, expected that". -/
def mismatch {α : Type} (j : Json) (expected : String) : Except DecodeError α :=
  .error (.invalidType (found j) expected)

/-- An unsigned integer up to `bound`, named `name` in diagnostics. -/
def unsignedUpTo (name : String) (bound : Nat) : Decoder Nat := fun _ j =>
  match j with
  | .number (.unsigned n) =>
    if n ≤ bound then .ok n else .error (.invalidValue (.unsigned n) name)
  | .number (.signed n) => .error (.invalidValue (.signed n) name)
  | other => mismatch other name

/-- An unsigned 64-bit integer. -/
def u64 : Decoder Nat := unsignedUpTo "u64" (Nat.pow 2 64 - 1)

/-- A machine-sized unsigned integer (64 bits). -/
def usize : Decoder Nat := unsignedUpTo "usize" (Nat.pow 2 64 - 1)

/-- An unsigned 32-bit integer. -/
def u32 : Decoder Nat := unsignedUpTo "u32" (Nat.pow 2 32 - 1)

/-- A signed integer in `[low, high]`, named `name` in diagnostics. -/
def signedWithin (name : String) (low high : Int) : Decoder Int := fun _ j =>
  match j with
  | .number (.unsigned n) =>
    if (n : Int) ≤ high then .ok n else .error (.invalidValue (.unsigned n) name)
  | .number (.signed n) =>
    if low ≤ n ∧ n ≤ high then .ok n else .error (.invalidValue (.signed n) name)
  | other => mismatch other name

/-- A signed 32-bit integer. -/
def i32 : Decoder Int := signedWithin "i32" (-2147483648) 2147483647

/-- A signed 64-bit integer. -/
def i64 : Decoder Int := signedWithin "i64" (-9223372036854775808) 9223372036854775807

/-- A double; integers are converted to the nearest double. -/
def f64 : Decoder Float := fun _ j =>
  match j with
  | .number (.unsigned n) => .ok (Decimal.nearest n 1)
  | .number (.signed n) => .ok (-(Decimal.nearest n.natAbs 1))
  | .number (.float x) => .ok x
  | other => mismatch other "f64"

/-- A boolean. -/
def boolean : Decoder Bool := fun _ j =>
  match j with
  | .bool b => .ok b
  | other => mismatch other "a boolean"

/-- A string. -/
def text : Decoder String := fun _ j =>
  match j with
  | .string s => .ok s
  | other => mismatch other "a string"

/-- Any JSON value. -/
def anyValue : Decoder Json := fun _ j => .ok j

/-- An optional value: `null` is absent. -/
def optional {α : Type} (d : Decoder α) : Decoder (Option α) := fun origin j =>
  match j with
  | .null => .ok none
  | other => (d origin other).map some

/-- A list of values. -/
def listOf {α : Type} (d : Decoder α) : Decoder (List α) := fun origin j =>
  match j with
  | .array items => items.mapM (d origin)
  | other => mismatch other "a sequence"

/-- The name of a unit variant, among `names`: a string, or a map with that name as its single
key and `null` as its value. -/
def variantName (names : List String) : Decoder String := fun _ j =>
  let named (s : String) : Except DecodeError String :=
    if names.contains s then .ok s else .error (.unknownVariant s names)
  match j with
  | .string s => named s
  | .object [(s, v)] => do
    let s ← named s
    match v with
    | .null => .ok s
    | other => mismatch other "unit"
  | .object _ => .error (.invalidValue .map "map with a single key")
  | other => mismatch other "string or map"

/-- When a field may be left out. -/
inductive Absence where
  /-- Never. -/
  | required
  /-- From an object only; it then reads as `null`. -/
  | nullable
  /-- From an object and from the end of an array; it then takes its default. -/
  | defaulted
  deriving DecidableEq, Repr

/-- A field of a struct: its name, when it may be absent, and how its value is checked. -/
structure FieldSpec where
  name : String
  absence : Absence
  check : Origin → Json → Option DecodeError

/-- A field checked by a decoder. -/
def FieldSpec.of {α : Type} (name : String) (d : Decoder α) (absence : Absence) : FieldSpec :=
  ⟨name, absence, fun origin j =>
    match d origin j with
    | .ok _ => none
    | .error e => some e⟩

/-- The fields of a struct, found by name once their values have been checked. -/
structure Fields where
  origin : Origin
  values : List (String × Json)

/-- The first failure of the checked members, visited in the order given. -/
def firstFailure (origin : Origin) (specs : List FieldSpec) :
    List (String × Json) → Option DecodeError
  | [] => none
  | (key, value) :: rest =>
    match specs.find? (·.name == key) with
    | some spec =>
      match spec.check origin value with
      | some e => some e
      | none => firstFailure origin specs rest
    | none => firstFailure origin specs rest

/-- `n` elements, with the singular for one. -/
def elements (n : Nat) : String :=
  toString n ++ (if n = 1 then " element" else " elements")

/-- Positional fields: each item checked in declaration order; an absent required field is a
length failure, and surplus items are one too. -/
def positional (origin : Origin) (what : String) (count : Nat) :
    List FieldSpec → List Json → Nat → Except DecodeError (List (String × Json))
  | [], [], _ => .ok []
  | [], extra, used =>
    match origin with
    | .direct => .error (.invalidLength (used + extra.length) "fewer elements in array")
    | .buffered => .error (.invalidLength (used + extra.length) (elements used ++ " in sequence"))
  | spec :: specs, [], used =>
    if spec.absence = .defaulted then positional origin what count specs [] (used + 1)
    else .error (.invalidLength used (what ++ " with " ++ elements count))
  | spec :: specs, item :: items, used =>
    match spec.check origin item with
    | some e => .error e
    | none =>
      match positional origin what count specs items (used + 1) with
      | .ok rest => .ok ((spec.name, item) :: rest)
      | .error e => .error e

/-- Reads the fields of a record described as `what` (such as `struct Lease`) from an object
or an array. -/
def recordFields (what : String) (specs : List FieldSpec) : Decoder Fields :=
  fun origin j =>
  match j with
  | .object members =>
    match firstFailure origin specs members with
    | some e => .error e
    | none =>
      match specs.find? (fun s => s.absence = .required && !(members.any (·.1 == s.name))) with
      | some s => .error (.missingField s.name)
      | none => .ok ⟨origin, members⟩
  | .array items =>
    (positional origin what specs.length specs items 0).map fun vs => ⟨origin, vs⟩
  | other => mismatch other what

/-- Reads the fields of a struct named `structName`. -/
def structFields (structName : String) (specs : List FieldSpec) : Decoder Fields :=
  recordFields ("struct " ++ structName) specs

/-- A required field, decoded. -/
def Fields.get {α : Type} (fs : Fields) (name : String) (d : Decoder α) :
    Except DecodeError α :=
  match fs.values.find? (·.1 == name) with
  | some (_, v) => d fs.origin v
  | none => .error (.missingField name)

/-- A field that may be absent, with its value when absent. -/
def Fields.getD {α : Type} (fs : Fields) (name : String) (d : Decoder α) (fallback : α) :
    Except DecodeError α :=
  match fs.values.find? (·.1 == name) with
  | some (_, v) => d fs.origin v
  | none => .ok fallback

/-- A required field checked by a decoder. -/
def FieldSpec.req {α : Type} (name : String) (d : Decoder α) : FieldSpec :=
  FieldSpec.of name d .required

/-- A field that an object may leave out, read as `null` then. -/
def FieldSpec.opt {α : Type} (name : String) (d : Decoder α) : FieldSpec :=
  FieldSpec.of name d .nullable

/-- A field with a default, which objects and short arrays may leave out. -/
def FieldSpec.dflt {α : Type} (name : String) (d : Decoder α) : FieldSpec :=
  FieldSpec.of name d .defaulted

/-- Decodes a value met directly. -/
def decode {α : Type} (d : Decoder α) (j : Json) : Except DecodeError α := d .direct j

end SlotKeeper.Json
