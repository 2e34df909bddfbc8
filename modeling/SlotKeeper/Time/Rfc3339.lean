import SlotKeeper.Time.Instant
import SlotKeeper.Text.Blank
import SlotKeeper.Json.Decode

/-!
# Reading RFC 3339 timestamps

`Instant.parse` reads a date and time with an offset and converts it to UTC. The grammar is
RFC 3339 read leniently:

* blanks may stand before each number and around the `-` and `:` separators;
* the year has up to four digits, or any number of digits after a `+` or `-` sign;
* the date and the time are separated by `T`, `t` or a space;
* the fraction of a second has one or more digits, of which the first nine count;
* the offset is `Z`, `z`, `UTC` in any case, or a sign (`+`, `-` or U+2212), two hour digits,
  optional colons or blanks, and two minute digits;
* blanks may follow.

Failures are reported in reading order, each with one of the fixed texts of `TimeError`. A field
out of its range (month 13, minute 60) fails when it is read; an impossible date (February 30) or
offset fails after the whole text was read, and last a UTC date past the representable ones is
refused as impossible. Second 60 is a leap second, kept as such: second 59 with a fraction of
one second or more.
-/

namespace SlotKeeper

/-- Why a timestamp was refused. -/
inductive TimeError where
  | outOfRange
  | invalid
  | tooShort
  | tooLong
  | impossible
  deriving DecidableEq, Repr

/-- The text of a timestamp failure. -/
def TimeError.message : TimeError → String
  | .outOfRange => "input is out of range"
  | .invalid => "input contains invalid characters"
  | .tooShort => "premature end of input"
  | .tooLong => "trailing input"
  | .impossible => "no possible date and time matching input"

namespace Rfc3339

open Text

/-- What is left to read. -/
abbrev Rest := List Char

/-- Whether a character is an ASCII digit. -/
def isDigit (c : Char) : Bool := '0' ≤ c && c ≤ '9'

/-- The UTF-8 length of a character list. -/
def byteLength (cs : Rest) : Nat := cs.foldr (fun c n => c.utf8Size + n) 0

/-- Reads at least `least` and at most `most` digits. -/
def digitsAux (least most : Nat) (count : Nat) (acc : Int) : Rest → Except TimeError (Int × Rest)
  | [] => .ok (acc, [])
  | c :: rest =>
    if count = most then .ok (acc, c :: rest)
    else if isDigit c then
      let next := acc * 10 + (c.toNat - 48 : Nat)
      if next > 9223372036854775807 then .error .outOfRange
      else digitsAux least most (count + 1) next rest
    else if count < least then .error .invalid
    else .ok (acc, c :: rest)

/-- A number of `least` to `most` digits (a text shorter than `least` is premature). -/
def number (least most : Nat) (s : Rest) : Except TimeError (Int × Rest) :=
  if byteLength s < least then .error .tooShort else digitsAux least most 0 0 s

/-- Drops leading blanks. -/
def blank (s : Rest) : Rest := dropBlank s

/-- A literal character. -/
def literal (c : Char) (s : Rest) : Except TimeError Rest :=
  match s with
  | [] => .error .tooShort
  | d :: rest => if c = d then .ok rest else .error .invalid

/-- A value checked against an inclusive range when it is read. -/
def within (lo hi : Int) (v : Int) : Except TimeError Nat :=
  if lo ≤ v ∧ v ≤ hi then .ok v.toNat else .error .outOfRange

/-- The year: signed with any number of digits, or unsigned with up to four. -/
def year (s : Rest) : Except TimeError (Int × Rest) := do
  let s := blank s
  let (v, rest) ← match s with
    | '-' :: r => do
      let (v, rest) ← number 1 (Nat.pow 2 64) r
      pure (-v, rest)
    | '+' :: r => number 1 (Nat.pow 2 64) r
    | r => number 1 4 r
  if v < -2147483648 ∨ v > 2147483647 then .error .outOfRange else .ok (v, rest)

/-- A two-digit field after blanks, checked against its range. -/
def field (lo hi : Int) (s : Rest) : Except TimeError (Nat × Rest) := do
  let (v, rest) ← number 1 2 (blank s)
  let v ← within lo hi v
  pure (v, rest)

/-- Skips digits. -/
def skipDigits : Rest → Rest
  | [] => []
  | c :: rest => if isDigit c then skipDigits rest else c :: rest

/-- An optional fraction of a second, in nanoseconds. -/
def fraction (s : Rest) : Except TimeError (Nat × Rest) :=
  match s with
  | '.' :: r => do
    let (v, rest) ← number 1 9 r
    let used := r.length - rest.length
    let scaled := v.toNat * Nat.pow 10 (9 - used)
    pure (scaled, skipDigits rest)
  | _ => .ok (0, s)

/-- Two ASCII characters at the front, or premature when fewer than two bytes are left. -/
def twoChars (s : Rest) : Except TimeError (Char × Char × Rest) :=
  match s with
  | a :: b :: rest => .ok (a, b, rest)
  | _ => if byteLength s < 2 then .error .tooShort else .error .invalid

/-- The offset from UTC in seconds. -/
def offset (s : Rest) : Except TimeError (Int × Rest) := do
  let s := blank s
  match s with
  | a :: b :: c :: rest =>
    if a.toLower = 'u' ∧ b.toLower = 't' ∧ c.toLower = 'c' then return (0, rest) else pure ()
  | _ => pure ()
  match s with
  | 'Z' :: rest => return (0, rest)
  | 'z' :: rest => return (0, rest)
  | _ => pure ()
  let (negative, s) ← match s with
    | '+' :: r => pure (false, r)
    | '-' :: r => pure (true, r)
    | c :: r => if c.toNat = 0x2212 then pure (true, r) else .error .invalid
    | [] => .error .tooShort
  let (h1, h2, s) ← twoChars s
  if !(isDigit h1 && isDigit h2) then .error .invalid
  let hours : Int := ((h1.toNat - 48) * 10 + (h2.toNat - 48) : Nat)
  let s := s.dropWhile fun c => c = ':' || isBlank c
  let minutes : Int ← match s with
    | m1 :: m2 :: _ =>
      if '0' ≤ m1 && m1 ≤ '5' && isDigit m2 then pure ((m1.toNat - 48) * 10 + (m2.toNat - 48) : Nat)
      else if '6' ≤ m1 && m1 ≤ '9' && isDigit m2 then .error .outOfRange
      else .error .invalid
    | _ => if byteLength s < 2 then .error .tooShort else .error .invalid
  let seconds := hours * 3600 + minutes * 60
  pure (if negative then -seconds else seconds, s.drop 2)

/-- The separator between date and time. -/
def separator (s : Rest) : Except TimeError Rest :=
  match s with
  | c :: rest => if c = 'T' ∨ c = 't' ∨ c = ' ' then .ok rest else .error .invalid
  | [] => .error .tooShort

/-- Reads a whole timestamp. -/
def read (text : String) : Except TimeError Instant := do
  let s := text.toList
  let (y, s) ← year s
  let s ← literal '-' (blank s)
  let (mo, s) ← field 1 12 s
  let s ← literal '-' (blank s)
  let (d, s) ← field 1 31 s
  let s ← separator s
  let (h, s) ← field 0 23 s
  let s ← literal ':' (blank s)
  let (mi, s) ← field 0 59 s
  let s ← literal ':' (blank s)
  let (se, s) ← field 0 60 s
  let (nano, s) ← fraction s
  let (off, s) ← offset s
  if !(blank s).isEmpty then .error .tooLong
  if !(-262143 ≤ y ∧ y ≤ 262142) then .error .outOfRange
  if d > Instant.monthLength y mo then .error .outOfRange
  if off.natAbs ≥ 86400 then .error .outOfRange
  -- second 60 is the leap second: second 59 with a fraction of a second or more
  let leap := if se = 60 then Instant.nanosPerSecond else 0
  let local_ := Instant.ofCivil y mo d h mi (min se 59) (nano + leap)
  let utc : Instant := ⟨local_.secs - off, local_.frac⟩
  if utc.inRange then pure utc else .error .impossible

end Rfc3339

/-- Reads an RFC 3339 timestamp and converts it to UTC. -/
def Instant.parse (text : String) : Except TimeError Instant := Rfc3339.read text

/-- Reads an instant from a JSON string holding an RFC 3339 timestamp. -/
def Instant.decoder : Json.Decoder Instant := fun _ j =>
  match j with
  | .string s =>
    match Instant.parse s with
    | .ok t => .ok t
    | .error e => .error (.custom e.message)
  | other => Json.mismatch other "an RFC 3339 formatted date and time string"

/-- Reads a span written as whole milliseconds. -/
def Span.millisDecoder : Json.Decoder Span := fun origin j =>
  (Json.u64 origin j).map Span.ofMillis

end SlotKeeper
