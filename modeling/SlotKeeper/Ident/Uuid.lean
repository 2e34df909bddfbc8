import SlotKeeper.Json.Decode

/-!
# UUIDs

A `Uuid` is a 128-bit identifier, written as 32 lower-case hexadecimal digits in groups of 8, 4,
4, 4 and 12 separated by hyphens.

`Uuid.parse` accepts that hyphenated form in either case, 32 digits without hyphens, the
hyphenated form in braces, and the hyphenated form after `urn:uuid:`. A refused text is reported
by its first fault, looked for in this order: a character that is neither a hexadecimal digit nor
a hyphen (with its 0-based byte position), a hyphen-free text of the wrong length, a wrong
number of groups, and the first group of the wrong length. A text of the length of a hyphenated
form is examined as that form, with positions counted within it.
-/

namespace SlotKeeper

/-- A 128-bit identifier. -/
structure Uuid where
  value : Nat
  deriving DecidableEq, Repr, Inhabited

namespace Uuid

/-- The all-zero identifier. -/
def nil : Uuid := ⟨0⟩

/-- Lower-case hexadecimal digits of `n`, padded to `width`. -/
def hexPadded (width n : Nat) : String :=
  let digits := Nat.toDigits 16 n
  String.ofList (List.replicate (width - digits.length) '0' ++ digits)

/-- The hyphenated lower-case form. -/
def render (u : Uuid) : String :=
  let v := u.value % Nat.pow 2 128
  hexPadded 8 (v / Nat.pow 2 96) ++ "-" ++ hexPadded 4 (v / Nat.pow 2 80 % Nat.pow 2 16) ++ "-" ++
    hexPadded 4 (v / Nat.pow 2 64 % Nat.pow 2 16) ++ "-" ++ hexPadded 4 (v / Nat.pow 2 48 % Nat.pow 2 16) ++ "-" ++
    hexPadded 12 (v % Nat.pow 2 48)

example : nil.render = "00000000-0000-0000-0000-000000000000" := by decide

/-- The value of a hexadecimal digit. -/
def hexValue (c : Char) : Option Nat :=
  if '0' ≤ c ∧ c ≤ '9' then some (c.toNat - 48)
  else if 'a' ≤ c ∧ c ≤ 'f' then some (c.toNat - 87)
  else if 'A' ≤ c ∧ c ≤ 'F' then some (c.toNat - 55)
  else none

/-- The value of a list of hexadecimal digits. -/
def hexDigitsValue (cs : List Char) : Option Nat :=
  cs.foldl (fun acc c => do
    let a ← acc
    let d ← hexValue c
    pure (a * 16 + d)) (some 0)

/-- Why a text is not a UUID. -/
inductive ParseError where
  | character (c : Char) (index : Nat)
  | length (length : Nat)
  | groupCount (count : Nat)
  | groupLength (group expected length : Nat)
  deriving DecidableEq, Repr

/-- The text of a parse failure. -/
def ParseError.message : ParseError → String
  | .character c i => "invalid character: found `" ++ String.singleton c ++ "` at " ++ toString i
  | .length n => "invalid length: found " ++ toString n
  | .groupCount n => "invalid group count: expected 5, found " ++ toString n
  | .groupLength g e n =>
    "invalid group length in group " ++ toString g ++ ": expected " ++ toString e ++ ", found " ++
      toString n

/-- The lengths of the five groups of the hyphenated form. -/
def groupLengths : List Nat := [8, 4, 4, 4, 12]

/-- The hyphenated form: five groups of hexadecimal digits of the right lengths. -/
def hyphenated (cs : List Char) : Option Nat :=
  let groups := (String.ofList cs).splitOn "-"
  if groups.map String.length == groupLengths then hexDigitsValue (cs.filter (· ≠ '-'))
  else none

/-- Whether a text starts with the URN prefix `urn:uuid:`, in any case. -/
def hasUrnPrefix (cs : List Char) : Bool :=
  (cs.take 9).map Char.toLower == "urn:uuid:".toList

/-- The accepted forms: 32 digits, the hyphenated form, and the hyphenated form in braces or
after the URN prefix. -/
def accepted (cs : List Char) : Option Nat :=
  if cs.length = 32 then (if cs.contains '-' then none else hexDigitsValue cs)
  else if cs.length = 36 then hyphenated cs
  else if cs.length = 38 ∧ cs.head? = some '{' ∧ cs.getLast? = some '}' then
    hyphenated ((cs.drop 1).take 36)
  else if cs.length = 45 ∧ hasUrnPrefix cs then hyphenated (cs.drop 9)
  else none

/-- The first character that is neither a hexadecimal digit nor a hyphen, with its byte index
counted from `start`. -/
def firstStray (start : Nat) : List Char → Option (Char × Nat)
  | [] => none
  | c :: rest =>
    if c ≠ '-' ∧ (hexValue c).isNone then some (c, start)
    else firstStray (start + c.utf8Size) rest

/-- Whether a text is wrapped in braces. -/
def braced (cs : List Char) : Bool :=
  decide (2 ≤ cs.length) && cs.head? == some '{' && cs.getLast? == some '}'

/-- The part of a refused text that is examined, the offset added to the positions found in it,
and whether it counts as the hyphen-free form. A text of one of the lengths of a hyphenated form
is examined as that form, with positions counted within it: 36 bytes as it stands, 38 in braces
and 45 after the URN prefix as the text within. Any other text, a 32-byte one included, is
examined without its braces or its URN prefix, with positions counted in the whole text, and
counts as the hyphen-free form when it has neither. -/
def examined (cs : List Char) (size : Nat) : List Char × Nat × Bool :=
  if size = 36 then (cs, 0, false)
  else if size = 38 ∧ braced cs then ((cs.drop 1).dropLast, 0, false)
  else if size = 45 ∧ hasUrnPrefix cs then (cs.drop 9, 0, false)
  else if braced cs then ((cs.drop 1).dropLast, 1, false)
  else if hasUrnPrefix cs then (cs.drop 9, 9, false)
  else (cs, 0, true)

/-- The first fault of a refused text. A text of more than 45 bytes is too long; otherwise the
examined part is checked for stray characters, then for its hyphens, then for the lengths of its
groups. The length reported for the last group counts from its start to the end of the whole
text. -/
def fault (cs : List Char) : ParseError :=
  let size := (String.ofList cs).utf8ByteSize
  if size > 45 then .length size else
  let (body, offset, simple) := examined cs size
  match firstStray 0 body with
  | some (c, i) => .character c (i + offset)
  | none =>
    let hyphens := body.count '-'
    if hyphens = 0 ∧ simple then .length size
    else if hyphens ≠ 4 then .groupCount (hyphens + 1)
    else
      let lengths := ((String.ofList body).splitOn "-").map String.length
      match ((lengths.zip groupLengths).zipIdx.find? fun ((n, e), _) => n ≠ e) with
      | some ((n, e), g) => if g < 4 then .groupLength g e n else .groupLength 4 12 (size - 24)
      | none => .groupLength 4 12 (size - 24)

/-- Reads a UUID from text. -/
def parse (s : String) : Except ParseError Uuid :=
  match accepted s.toList with
  | some v => .ok ⟨v⟩
  | none => .error (fault s.toList)

/-- Reads a UUID from a JSON string. -/
def decoder : Json.Decoder Uuid := fun _ j =>
  match j with
  | .string s =>
    match parse s with
    | .ok u => .ok u
    | .error e => .error (.custom ("UUID parsing failed: " ++ e.message))
  | other => Json.mismatch other "a formatted UUID string"

end Uuid

end SlotKeeper
