import SlotKeeper.Decimal.Nearest

/-!
# Shortest decimal digits of a double

A positive finite double `v = m · 2^e` is read back from any decimal inside its rounding
interval: the reals halfway to its two neighbours, both ends included exactly when `m` is even.
`shortest` finds the coarsest decimal grid `10^k` with a point inside that interval, and on that
grid the point nearest to `v` (of two at equal distance, the even one). The digits are then the
fewest that read back, and they never end in a zero, since a point with a trailing zero would
already lie on the coarser grid `10^(k+1)`.

All comparisons are exact: every quantity is an integer multiple of `2^(e-2)`, compared with
`c · 10^k` after both sides are brought to one denominator.
-/

namespace SlotKeeper.Decimal

/-- A finite double as an integer significand and a binary exponent: `m · 2^e`. -/
structure Binary where
  negative : Bool
  significand : Nat
  exponent : Int
  /-- The encoding's fraction field is zero, so the gap below is half the gap above. -/
  fractionZero : Bool
  /-- The biased exponent field is above one, so a narrower gap below exists. -/
  aboveLowestBinade : Bool
  deriving Repr

/-- Splits an encoding into sign, significand and exponent (finite values only). -/
def Binary.ofBits (bits : Nat) : Binary :=
  let field : Nat := (bits / Nat.pow 2 52) % Nat.pow 2 11
  let frac : Nat := bits % Nat.pow 2 52
  let negative := bits / Nat.pow 2 63 % 2 = 1
  if field = 0 then
    ⟨negative, frac, -1074, frac = 0, false⟩
  else
    ⟨negative, frac + Nat.pow 2 52, (field : Int) - 1075, frac = 0, field > 1⟩

/-- The number of decimal digits of `n`, counting at most `fuel` of them. -/
def decimalLengthAux : Nat → Nat → Nat
  | 0, _ => 0
  | fuel + 1, n => if n < 10 then 1 else decimalLengthAux fuel (n / 10) + 1

/-- The number of decimal digits of `n` (one for zero): `n` itself bounds the count. -/
def decimalLength (n : Nat) : Nat := decimalLengthAux (n + 1) n

/-- Digits and the power of ten of the last one: the value is `digits · 10^power`. -/
structure Digits where
  digits : Nat
  power : Int
  deriving Repr, DecidableEq

/-- `a · 2^s · 10^t` split into a numerator and a denominator of natural numbers. -/
def scaled (a : Nat) (s t : Int) : Nat × Nat :=
  let num := a * Nat.pow 2 (if 0 ≤ s then s.toNat else 0) * Nat.pow 10 (if 0 ≤ t then t.toNat else 0)
  let den := Nat.pow 2 (if 0 ≤ s then 0 else (-s).toNat) * Nat.pow 10 (if 0 ≤ t then 0 else (-t).toNat)
  (num, den)

/-- The decimal point of the grid `10^k` nearest to `v`, if a point of that grid lies in the
rounding interval `[low, high]` (scaled by `2^(e-2)`). -/
def onGrid (b : Binary) (k : Int) : Option Nat :=
  let s := b.exponent - 2
  let mv := 4 * b.significand
  let mp := mv + 2
  let mm := if b.fractionZero && b.aboveLowestBinade then mv - 1 else mv - 2
  let inclusive := b.significand % 2 = 0
  let (lowNum, den) := scaled mm s (-k)
  let (highNum, _) := scaled mp s (-k)
  let (valueNum, _) := scaled mv s (-k)
  let lo := if inclusive then (lowNum + den - 1) / den else lowNum / den + 1
  let hi := if inclusive then highNum / den
    else if highNum % den = 0 then highNum / den - 1 else highNum / den
  let c0 := valueNum / den
  let r := valueNum % den
  let inRange (c : Nat) : Bool := lo ≤ c && c ≤ hi
  let pick :=
    if 2 * r < den then [c0, c0 + 1]
    else if 2 * r > den then [c0 + 1, c0]
    else if c0 % 2 = 0 then [c0, c0 + 1] else [c0 + 1, c0]
  pick.find? inRange

/-- Searches the grids `10^k, 10^(k-1), …` for at most `fuel` steps. -/
def searchGrids (b : Binary) : Nat → Int → Option Digits
  | 0, _ => none
  | fuel + 1, k =>
    match onGrid b k with
    | some c => some ⟨c, k⟩
    | none => searchGrids b fuel (k - 1)

/-- The shortest digits of a positive finite double. The search starts at a grid coarser than
the value itself and goes finer; seventeen digits always suffice, so the fuel of 800 grids
covers every exponent. -/
def shortest (b : Binary) : Digits :=
  let (num, den) := scaled (4 * b.significand + 2) (b.exponent - 2) 0
  let top : Int :=
    if num ≥ den then (decimalLength (num / den) : Int) else 0
  (searchGrids b 800 top).getD ⟨0, 0⟩

/-- The shortest digits of a finite double given by its encoding, zero for a zero. -/
def shortestOfBits (bits : Nat) : Digits :=
  let b := Binary.ofBits bits
  if b.significand = 0 then ⟨0, 0⟩ else shortest b

example : shortestOfBits 0x3FF0000000000000 = ⟨1, 0⟩ := by decide +kernel

end SlotKeeper.Decimal
