import SlotKeeper.Json.Value
import SlotKeeper.Decimal.Shortest

/-!
# Writing JSON text

`Json.render` writes compact JSON: no blanks, members in the order the value holds them,
strings escaped as the format requires (quote, backslash and the control characters below
U+0020; everything else is written as itself).

Floats are written with their shortest digits (`Decimal.shortest`) in one of two layouts, each a
record of format decisions (`FloatLayout`): the layout of JSON numbers (`FloatLayout.json`,
positional from `1e-5` up to below `1e16`, scientific otherwise, with an explicit exponent sign),
and the always-positional layout of plain decimal text (`FloatLayout.positional`). Both keep a
`.0` on integral values.
-/

namespace SlotKeeper

/-- How a float is laid out as text. -/
structure FloatLayout where
  /-- Positional notation is used while the decimal point position `p` (the value lies in
  `[10^(p-1), 10^p)`) satisfies `minPoint < p ≤ maxPoint`. -/
  minPoint : Int
  maxPoint : Int
  /-- Write `+` before a non-negative exponent. -/
  plusSign : Bool

/-- JSON numbers: positional for `1e-5 ≤ |v| < 1e16`, else `d.ddde±x`. -/
def FloatLayout.json : FloatLayout := ⟨-5, 16, true⟩

/-- Plain decimal text: always positional. -/
def FloatLayout.positional : FloatLayout := ⟨-100000, 100000, true⟩

/-- The decimal digits of a natural number. -/
def digitText (n : Nat) : String := toString n

/-- `n` zeros. -/
def zeros (n : Nat) : String := String.ofList (List.replicate n '0')

/-- The text of a float in a layout. -/
def FloatLayout.render (layout : FloatLayout) (x : Float) : String :=
  let bits := x.toBits.toNat
  let negative := bits / Nat.pow 2 63 % 2 = 1
  let sign := if negative then "-" else ""
  let d := Decimal.shortestOfBits bits
  if d.digits = 0 then sign ++ "0.0" else
  let ds := digitText d.digits
  let len := ds.length
  let point : Int := (len : Int) + d.power
  let body :=
    if layout.minPoint < point ∧ point ≤ layout.maxPoint then
      if 0 ≤ d.power then ds ++ zeros d.power.toNat ++ ".0"
      else if 0 < point then
        String.ofList (ds.toList.take point.toNat) ++ "." ++
          String.ofList (ds.toList.drop point.toNat)
      else "0." ++ zeros (-point).toNat ++ ds
    else
      let e := point - 1
      let mantissa :=
        if len = 1 then ds
        else String.ofList (ds.toList.take 1) ++ "." ++ String.ofList (ds.toList.drop 1)
      let eText := if e < 0 then "-" ++ digitText (-e).toNat
        else (if layout.plusSign then "+" else "") ++ digitText e.toNat
      mantissa ++ "e" ++ eText
  sign ++ body

/-- Four hexadecimal digits, lower case. -/
def hex4 (n : Nat) : String :=
  let digit (k : Nat) : Char :=
    if k < 10 then Char.ofNat (48 + k) else Char.ofNat (87 + k)
  String.ofList [digit (n / 4096 % 16), digit (n / 256 % 16), digit (n / 16 % 16), digit (n % 16)]

/-- One character of a JSON string body. -/
def escapeChar (c : Char) : String :=
  if c = '"' then "\\\""
  else if c = '\\' then "\\\\"
  else if c = '\n' then "\\n"
  else if c = '\r' then "\\r"
  else if c = '\t' then "\\t"
  else if c.toNat = 8 then "\\b"
  else if c.toNat = 12 then "\\f"
  else if c.toNat < 0x20 then "\\u" ++ hex4 c.toNat
  else String.singleton c

/-- A quoted JSON string. -/
def quoteJson (s : String) : String :=
  "\"" ++ String.join (s.toList.map escapeChar) ++ "\""

/-- The text of a number. -/
def Number.render : Number → String
  | .unsigned n => digitText n
  | .signed n => if n < 0 then "-" ++ digitText n.natAbs else digitText n.natAbs
  | .float x => FloatLayout.json.render x

namespace Json

mutual
/-- Compact JSON text. -/
def render : Json → String
  | null => "null"
  | bool b => if b then "true" else "false"
  | number n => n.render
  | string s => quoteJson s
  | array items => "[" ++ renderItems items ++ "]"
  | object members => "\x7b" ++ renderMembers members ++ "\x7d"

/-- Array items separated by commas. -/
def renderItems : List Json → String
  | [] => ""
  | [j] => render j
  | j :: rest => render j ++ "," ++ renderItems rest

/-- Object members separated by commas. -/
def renderMembers : List (String × Json) → String
  | [] => ""
  | [(k, v)] => quoteJson k ++ ":" ++ render v
  | (k, v) :: rest => quoteJson k ++ ":" ++ render v ++ "," ++ renderMembers rest
end

end Json

end SlotKeeper
