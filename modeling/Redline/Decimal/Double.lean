/-!
# Doubles

A finite double is kept as its sign and the two numbers of its exact magnitude, so that equality is
decidable and every operation is integer arithmetic. The result of an operation is the double
nearest to the exact one; halfway between two it is the one with an even significand, and when the
nearest would lie beyond the largest double there is none.

A decimal is read in two steps, each of which rounds: its digits become a double, which is then
multiplied or divided by the double nearest to a power of ten. The result is therefore not always
the double nearest to the decimal.
-/

namespace Redline.Decimal

/-- A finite double: `± significand · 2 ^ (exponent - 1074)`. The significand is below `2 ^ 53`, and
at least `2 ^ 52` unless the exponent is zero. -/
structure Double where
  /-- The sign bit. -/
  negative : Bool
  /-- The significand as a whole number. -/
  significand : Nat
  /-- The exponent of two, counted from that of the least positive double. -/
  exponent : Nat
deriving DecidableEq, Repr

def Double.zero (negative : Bool) : Double := ⟨negative, 0, 0⟩

/-- The largest exponent of a double. -/
def maxExponent : Nat := 2045

/-- The quotient rounded to the nearest whole number, a half going to the even neighbour. -/
def roundHalfEven (num den : Nat) : Nat :=
  let q := num / den
  let twice := 2 * (num % den)
  if twice < den then q
  else if den < twice then q + 1
  else if q % 2 = 0 then q else q + 1

/-- The number of binary digits of a number. -/
def bitLength (n : Nat) : Nat := if n = 0 then 0 else n.log2 + 1

/-- The double nearest to `num / den`, or `none` when that is beyond the largest. -/
def nearest? (negative : Bool) (num den : Nat) : Option Double :=
  let scaled := num * Nat.pow 2 1074
  let shift := bitLength (scaled / den) - 53
  let rounded := roundHalfEven scaled (den * Nat.pow 2 shift)
  let (significand, exponent) :=
    if rounded = Nat.pow 2 53 then (Nat.pow 2 52, shift + 1) else (rounded, shift)
  if exponent ≤ maxExponent then some ⟨negative, significand, exponent⟩ else none

/-! ## Products and quotients -/

/-- The exact magnitude of a double in units of the least positive double. -/
def Double.units (x : Double) : Nat := x.significand * Nat.pow 2 x.exponent

/-- The product of a double and a positive one. -/
def Double.mul? (x y : Double) : Option Double :=
  nearest? x.negative (x.units * y.units) (Nat.pow 2 1074 * Nat.pow 2 1074)

/-- The quotient of a double and a positive one. -/
def Double.div? (x y : Double) : Option Double := nearest? x.negative x.units y.units

/-! ## Decimals -/

/-- The largest power of ten that is a double. -/
def maxPower : Nat := 308

/-- The double nearest to a power of ten that is not above the largest. -/
def powerOfTen (n : Nat) : Double := (nearest? false (Nat.pow 10 n) 1).getD (.zero false)

/-- A double divided the given number of times by the same divisor. -/
def divRepeatedly? (divisor : Double) : Nat → Double → Option Double
  | 0, x => some x
  | n + 1, x => if x.significand = 0 then some x else do divRepeatedly? divisor n (← x.div? divisor)

/-- A double divided by a power of ten above the first, by the largest one as often as possible
before the rest. -/
def Double.scaleDown? (x : Double) (n : Nat) : Option Double := do
  let times := (n - 1) / maxPower
  let x ← divRepeatedly? (powerOfTen maxPower) times x
  x.div? (powerOfTen (n - maxPower * times))

/-- The double that `± digits · 10 ^ power` is read as, or `none` when it is too large. -/
def ofDecimal? (negative : Bool) (digits : Nat) (power : Int) : Option Double := do
  let x ← nearest? negative digits 1
  if power < 0 then x.scaleDown? power.natAbs
  else if x.significand = 0 then some x
  else if maxPower < power.natAbs then none
  else x.mul? (powerOfTen power.natAbs)

end Redline.Decimal
