import SlotKeeper.Json.Value
import SlotKeeper.Decimal.Nearest

/-!
# Reading JSON text

`Json.parse` reads one JSON value, with blanks around it, and classifies each number:

* an integer without sign, fraction or exponent that fits in 64 bits is `unsigned`;
* a negative such integer down to `-2^63` is `signed` (`-0` is the float `-0.0`);
* everything else is a float: the first nineteen or so significant digits that fit in 64 bits
  become an integer significand `s`, the digits after them only move the decimal exponent `x`,
  and the value is `s` rounded to a double, then multiplied or divided by `10^|x|` rounded to a
  double (in steps of `10^308` while `|x|` is larger). A product that overflows is refused as
  "number out of range".

Objects keep their members in key order, the last of two equal keys winning (`Json.record`).
Nesting deeper than 127 arrays or objects is refused.
-/

namespace SlotKeeper.Json

/-- A reading failure: its message and how many bytes of the text were left unread. -/
structure ReadError where
  message : String
  left : Nat
  deriving Repr

/-- What reading a part of the text gives: a value and the text after it. -/
abbrev ReadResult (α : Type) := Except ReadError (α × List Char)

/-- The blanks of JSON text. -/
def isJsonBlank (c : Char) : Bool := c = ' ' || c = '\n' || c = '\t' || c = '\r'

/-- Drops leading blanks. -/
def skipBlank : List Char → List Char
  | [] => []
  | c :: rest => if isJsonBlank c then skipBlank rest else c :: rest

/-- The UTF-8 length of a character list. -/
def byteLength (cs : List Char) : Nat := cs.foldr (fun c n => c.utf8Size + n) 0

/-- A failure with the given message where `rest` is left. -/
def failAt {α : Type} (message : String) (rest : List Char) : ReadResult α :=
  .error ⟨message, byteLength rest⟩

/-- A failure at the first byte of `rest`, which the reader has looked at: the position reported
is just past that byte. -/
def failOn {α : Type} (message : String) (rest : List Char) : ReadResult α :=
  .error ⟨message, byteLength rest - 1⟩

/-- The largest unsigned 64-bit value. -/
def u64Max : Nat := Nat.pow 2 64 - 1

/-- Whether `s * 10 + d` would pass `u64Max`. -/
def overflows (s d : Nat) : Bool := s * 10 + d > u64Max

/-- The value of an ASCII digit. -/
def digitValue (c : Char) : Nat := c.toNat - 48

/-- Whether a character is an ASCII digit. -/
def isDigit (c : Char) : Bool := '0' ≤ c && c ≤ '9'

/-- A double from a significand and a decimal exponent, stepping by `10^308` below the table. -/
def scaleByTen (f : Float) (exponent : Int) : Nat → Option Float
  | 0 => some f
  | fuel + 1 =>
    if exponent.natAbs ≤ 308 then
      let pow := Decimal.powTen exponent.natAbs
      if 0 ≤ exponent then
        let g := f * pow
        if g.isInf then none else some g
      else some (f / pow)
    else if f == 0 then some f
    else if 0 ≤ exponent then none
    else scaleByTen (f / Decimal.powTen 308) (exponent + 308) fuel

/-- The float of a sign, a significand and a decimal exponent. -/
def floatOfParts (positive : Bool) (significand : Nat) (exponent : Int) (rest : List Char) :
    ReadResult Number :=
  match scaleByTen (Decimal.nearest significand 1) exponent (exponent.natAbs / 308 + 2) with
  | some f => .ok (.float (if positive then f else -f), rest)
  | none => failAt "number out of range" rest

/-- Skips digits. -/
def skipDigits : List Char → List Char
  | c :: rest => if isDigit c then skipDigits rest else c :: rest
  | [] => []

/-- Reads the digits of an exponent into `acc`; `none` when it passes `2^31 - 1`. -/
def exponentDigits (acc : Nat) : List Char → Option Nat × List Char
  | c :: rest =>
    if isDigit c then
      let next := acc * 10 + digitValue c
      if next > 2147483647 then (none, rest) else exponentDigits next rest
    else (some acc, c :: rest)
  | [] => (some acc, [])

/-- Clamps to the signed 32-bit range. -/
def clampI32 (x : Int) : Int := max (-2147483648) (min 2147483647 x)

/-- Reads an exponent part (after `e`) and finishes the float. -/
def readExponent (positive : Bool) (significand : Nat) (start : Int) (rest : List Char) :
    ReadResult Number :=
  let (positiveExp, rest) := match rest with
    | '+' :: r => (true, r)
    | '-' :: r => (false, r)
    | r => (true, r)
  match rest with
  | [] => failAt "EOF while parsing a value" []
  | c :: r =>
    if !isDigit c then failOn "invalid number" (c :: r) else
    match exponentDigits (digitValue c) r with
    | (some e, r') =>
      let total := if positiveExp then clampI32 (start + e) else clampI32 (start - e)
      floatOfParts positive significand total r'
    | (none, r') =>
      if significand ≠ 0 ∧ positiveExp then failAt "number out of range" r'
      else .ok (.float (if positive then 0.0 else -0.0), skipDigits r')

/-- After the digits that fit: an exponent part or the end of the number. -/
def finishFloat (positive : Bool) (significand : Nat) (exponent : Int) (rest : List Char) :
    ReadResult Number :=
  match rest with
  | 'e' :: r | 'E' :: r => readExponent positive significand exponent r
  | _ => floatOfParts positive significand exponent rest

/-- Reads fraction digits into the significand while it fits in 64 bits. -/
def fractionDigits (positive : Bool) (significand : Nat) (exponent : Int) (count : Nat) :
    List Char → ReadResult Number
  | c :: rest =>
    if isDigit c then
      if overflows significand (digitValue c) then
        finishFloat positive significand exponent (skipDigits (c :: rest))
      else fractionDigits positive (significand * 10 + digitValue c) (exponent - 1) (count + 1) rest
    else if count = 0 then failOn "invalid number" (c :: rest)
    else finishFloat positive significand exponent (c :: rest)
  | [] => if count = 0 then failAt "EOF while parsing a value" []
    else finishFloat positive significand exponent []

/-- After the integer digits: a fraction, an exponent, or the end of an integer. -/
def afterInteger (positive : Bool) (significand : Nat) (rest : List Char) : ReadResult Number :=
  match rest with
  | '.' :: r => fractionDigits positive significand 0 0 r
  | 'e' :: r | 'E' :: r => readExponent positive significand 0 r
  | _ =>
    if positive then .ok (.unsigned significand, rest)
    else if significand = 0 ∨ significand > Nat.pow 2 63 then
      .ok (.float (-(Decimal.nearest significand 1)), rest)
    else .ok (.signed (-(significand : Int)), rest)

/-- Integer digits past 64 bits only count towards the exponent. -/
def longInteger (positive : Bool) (significand : Nat) (exponent : Int) :
    List Char → ReadResult Number
  | c :: rest =>
    if isDigit c then longInteger positive significand (exponent + 1) rest
    else if c = '.' then fractionDigits positive significand exponent 0 rest
    else if c = 'e' ∨ c = 'E' then readExponent positive significand exponent rest
    else floatOfParts positive significand exponent (c :: rest)
  | [] => floatOfParts positive significand exponent []

/-- Integer digits while they fit in 64 bits. -/
def integerDigits (positive : Bool) (significand : Nat) : List Char → ReadResult Number
  | c :: rest =>
    if isDigit c then
      if overflows significand (digitValue c) then longInteger positive significand 0 (c :: rest)
      else integerDigits positive (significand * 10 + digitValue c) rest
    else afterInteger positive significand (c :: rest)
  | [] => afterInteger positive significand []

/-- A number, after its optional minus sign. -/
def readNumber (positive : Bool) : List Char → ReadResult Number
  | [] => failAt "EOF while parsing a value" []
  | '0' :: rest =>
    match rest with
    | c :: _ => if isDigit c then failOn "invalid number" rest else afterInteger positive 0 rest
    | [] => afterInteger positive 0 []
  | c :: rest =>
    if isDigit c then integerDigits positive (digitValue c) rest
    else failOn "invalid number" (c :: rest)

/-- The value of a hexadecimal digit. -/
def hexValue (c : Char) : Option Nat :=
  if '0' ≤ c && c ≤ '9' then some (c.toNat - 48)
  else if 'a' ≤ c && c ≤ 'f' then some (c.toNat - 87)
  else if 'A' ≤ c && c ≤ 'F' then some (c.toNat - 55)
  else none

/-- Four hexadecimal digits. The reader takes the next four bytes: fewer than four bytes left is
the end of the text, and four bytes that are not all hexadecimal digits are an invalid escape
reported past them. -/
def hexEscape (rest : List Char) : ReadResult Nat :=
  if byteLength rest < 4 then failAt "EOF while parsing a string" []
  else
    match rest with
    | a :: b :: c :: d :: r =>
      match hexValue a, hexValue b, hexValue c, hexValue d with
      | some w, some x, some y, some z => .ok (((w * 16 + x) * 16 + y) * 16 + z, r)
      | _, _, _, _ => .error ⟨"invalid escape", byteLength rest - 4⟩
    | _ => .error ⟨"invalid escape", byteLength rest - 4⟩

/-- The character of a `\u` escape, reading a second escape for a surrogate pair. -/
def unicodeEscape (rest : List Char) : ReadResult Char :=
  match hexEscape rest with
  | .error e => .error e
  | .ok (n, rest) =>
    if 0xDC00 ≤ n ∧ n ≤ 0xDFFF then failAt "lone leading surrogate in hex escape" rest
    else if 0xD800 ≤ n ∧ n ≤ 0xDBFF then
      match rest with
      | '\\' :: 'u' :: rest' =>
        match hexEscape rest' with
        | .error e => .error e
        | .ok (m, rest'') =>
          if m < 0xDC00 ∨ m > 0xDFFF then failAt "lone leading surrogate in hex escape" rest''
          else .ok (Char.ofNat (((n - 0xD800) * 1024 + (m - 0xDC00)) + 0x10000), rest'')
      | ['\\'] | [] => failAt "EOF while parsing a string" []
      | '\\' :: r => failOn "unexpected end of hex escape" r
      | r => failOn "unexpected end of hex escape" r
    else .ok (Char.ofNat n, rest)

/-- The body of a string after its opening quote, characters collected in reverse; each step
reads at least one character, so the text's length bounds the steps. -/
def stringBody (acc : List Char) : Nat → List Char → ReadResult String
  | 0, rest => failAt "EOF while parsing a string" rest
  | _ + 1, [] => failAt "EOF while parsing a string" []
  | _ + 1, '"' :: rest => .ok (String.ofList acc.reverse, rest)
  | fuel + 1, '\\' :: rest =>
    match rest with
    | '"' :: r => stringBody ('"' :: acc) fuel r
    | '\\' :: r => stringBody ('\\' :: acc) fuel r
    | '/' :: r => stringBody ('/' :: acc) fuel r
    | 'b' :: r => stringBody (Char.ofNat 8 :: acc) fuel r
    | 'f' :: r => stringBody (Char.ofNat 12 :: acc) fuel r
    | 'n' :: r => stringBody ('\n' :: acc) fuel r
    | 'r' :: r => stringBody ('\r' :: acc) fuel r
    | 't' :: r => stringBody ('\t' :: acc) fuel r
    | 'u' :: r =>
      match unicodeEscape r with
      | .ok (c, r') => stringBody (c :: acc) fuel r'
      | .error e => .error e
    | [] => failAt "EOF while parsing a string" []
    | r => failOn "invalid escape" r
  | fuel + 1, c :: rest =>
    if c.toNat < 0x20 then failAt "control character (\\u0000-\\u001F) found while parsing a string" rest
    else stringBody (c :: acc) fuel rest

/-- A string body read with the text's length as its bound. -/
def readString (rest : List Char) : ReadResult String := stringBody [] (rest.length + 1) rest

/-- The rest of a literal word such as `true`, after its first letter: each letter is read and
compared in turn. -/
def literal (value : Json) : List Char → List Char → ReadResult Json
  | [], rest => .ok (value, rest)
  | _ :: _, [] => failAt "EOF while parsing a value" []
  | w :: word, c :: rest => if c = w then literal value word rest else failOn "expected ident" (c :: rest)

mutual
/-- A value at nesting `depth`, with at most `fuel` nested reads. -/
def readValue (depth : Nat) : Nat → List Char → ReadResult Json
  | 0, rest => failAt "recursion limit exceeded" rest
  | fuel + 1, input =>
    match skipBlank input with
    | [] => failAt "EOF while parsing a value" []
    | 'n' :: rest => literal .null "ull".toList rest
    | 't' :: rest => literal (.bool true) "rue".toList rest
    | 'f' :: rest => literal (.bool false) "alse".toList rest
    | '"' :: rest =>
      match readString rest with
      | .ok (s, r) => .ok (.string s, r)
      | .error e => .error e
    | '-' :: rest =>
      match readNumber false rest with
      | .ok (n, r) => .ok (.number n, r)
      | .error e => .error e
    | '[' :: rest =>
      if depth + 1 ≥ 128 then failAt "recursion limit exceeded" rest
      else
        match skipBlank rest with
        | ']' :: r => .ok (.array [], r)
        | [] => failAt "EOF while parsing a list" []
        | _ => readItems (depth + 1) fuel [] rest
    | '{' :: rest =>
      if depth + 1 ≥ 128 then failAt "recursion limit exceeded" rest
      else
        match skipBlank rest with
        | '}' :: r => .ok (.object [], r)
        | _ => readMembers (depth + 1) fuel [] rest
    | c :: rest =>
      if isDigit c then
        match readNumber true (c :: rest) with
        | .ok (n, r) => .ok (.number n, r)
        | .error e => .error e
      else failOn "expected value" (c :: rest)

/-- Array items after `[`, collected in reverse. -/
def readItems (depth : Nat) : Nat → List Json → List Char → ReadResult Json
  | 0, _, rest => failAt "recursion limit exceeded" rest
  | fuel + 1, acc, input =>
    match readValue depth fuel input with
    | .error e => .error e
    | .ok (v, rest) =>
      match skipBlank rest with
      | ',' :: r =>
        match skipBlank r with
        | ']' :: r' => failOn "trailing comma" (']' :: r')
        | _ => readItems depth fuel (v :: acc) r
      | ']' :: r => .ok (.array (v :: acc).reverse, r)
      | [] => failAt "EOF while parsing a list" []
      | r => failOn "expected `,` or `]`" r

/-- Object members after `{`, inserted in key order. -/
def readMembers (depth : Nat) : Nat → List (String × Json) → List Char → ReadResult Json
  | 0, _, rest => failAt "recursion limit exceeded" rest
  | fuel + 1, acc, input =>
    match skipBlank input with
    | '"' :: rest =>
      match readString rest with
      | .error e => .error e
      | .ok (key, rest) =>
        match skipBlank rest with
        | ':' :: r =>
          match readValue depth fuel r with
          | .error e => .error e
          | .ok (v, rest) =>
            let acc := insertMember key v acc
            match skipBlank rest with
            | ',' :: r' =>
              match skipBlank r' with
              | '}' :: r'' => failOn "trailing comma" ('}' :: r'')
              | [] => failAt "EOF while parsing a value" []
              | _ => readMembers depth fuel acc r'
            | '}' :: r' => .ok (.object acc, r')
            | [] => failAt "EOF while parsing an object" []
            | r' => failOn "expected `,` or `\x7d`" r'
        | [] => failAt "EOF while parsing an object" []
        | r => failOn "expected `:`" r
    | [] => failAt "EOF while parsing an object" []
    | r => failOn "key must be a string" r
end

/-- The line and the byte column of the position `read` bytes into the text: a line break read
starts a new line at column 0, and every other byte read moves the column on by one. -/
def positionAfter : List Char → Nat → Nat × Nat → Nat × Nat
  | [], _, at_ => at_
  | c :: rest, read, (line, col) =>
    if read = 0 then (line, col)
    else if c = '\n' then positionAfter rest (read - 1) (line + 1, 0)
    else positionAfter rest (read - min c.utf8Size read) (line, col + min c.utf8Size read)

/-- The line (from one) and byte column of the position `left` bytes before the end. -/
def position (text : List Char) (left : Nat) : Nat × Nat :=
  positionAfter text (byteLength text - left) (1, 0)

/-- Reads a whole text as one JSON value; the error is a message with its line and column. -/
def parse (text : String) : Except String Json :=
  let cs := text.toList
  let fail (e : ReadError) : Except String Json :=
    let (line, col) := position cs e.left
    .error s!"{e.message} at line {line} column {col}"
  match readValue 0 (cs.length + 1) cs with
  | .error e => fail e
  | .ok (v, rest) =>
    match skipBlank rest with
    | [] => .ok v
    | r => fail ⟨"trailing characters", byteLength r - 1⟩

end SlotKeeper.Json
