/-!
# The nearest double to a ratio

`nearestBits n d` is the IEEE binary64 encoding of the double nearest to `n / d`, a tie going
to the even significand. Everything is exact arithmetic on natural numbers: the binary exponent
`k = ⌊log₂ (n / d)⌋` comes from bit lengths, the significand is one rounded quotient, and a
quotient that rounds up to `2⁵³` moves to the next binade. Below the normal range the
quotient is taken in units of `2⁻¹⁰⁷⁴` directly, which is also the encoding of a subnormal.
-/

namespace SlotKeeper.Decimal

/-- The number of bits of `n`, zero for zero. -/
def bitLength (n : Nat) : Nat :=
  if n = 0 then 0 else n.log2 + 1

/-- `⌊log₂ (n / d)⌋` for positive `n` and `d`. -/
def floorLog2Ratio (n d : Nat) : Int :=
  let guess : Int := (bitLength n : Int) - (bitLength d : Int)
  -- the true value is `guess` or `guess - 1`
  let fits : Bool :=
    if 0 ≤ guess then decide (d * Nat.pow 2 guess.toNat ≤ n)
    else decide (d ≤ n * Nat.pow 2 (-guess).toNat)
  if fits then guess else guess - 1

/-- `n * 2^s / d` rounded to the nearest integer, a tie going to the even one. -/
def roundScaled (n d : Nat) (s : Int) : Nat :=
  let num := if 0 ≤ s then n * Nat.pow 2 s.toNat else n
  let den := if 0 ≤ s then d else d * Nat.pow 2 (-s).toNat
  let q := num / den
  let r := num % den
  if 2 * r > den then q + 1
  else if 2 * r = den ∧ q % 2 = 1 then q + 1
  else q

/-- The largest finite double's encoding plus one: the encoding of infinity. -/
def infinityBits : Nat := 0x7FF0000000000000

/-- The encoding of the double nearest to `n / d` (for `n = 0` or `d = 0`, zero). A value past
the largest finite double gives the encoding of infinity. -/
def nearestBits (n d : Nat) : Nat :=
  if n = 0 ∨ d = 0 then 0 else
  let k := floorLog2Ratio n d
  if k < -1022 then
    roundScaled n d 1074
  else
    let q := roundScaled n d (52 - k)
    let (q, k) := if q = Nat.pow 2 53 then (Nat.pow 2 52, k + 1) else (q, k)
    if k > 1023 then infinityBits
    else ((k + 1023).toNat * Nat.pow 2 52) + (q - Nat.pow 2 52)

example : nearestBits 1 1 = 0x3FF0000000000000 := by decide

/-- The double nearest to `n / d`. -/
def nearest (n d : Nat) : Float :=
  Float.ofBits (nearestBits n d).toUInt64

/-- `10 ^ e` rounded to the nearest double. -/
def powTen (e : Nat) : Float := nearest (Nat.pow 10 e) 1

end SlotKeeper.Decimal
