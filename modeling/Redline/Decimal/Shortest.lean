import Redline.Decimal.Double

/-!
# Shortest decimals

A double is written with the fewest decimal digits that read back as the same double, and among
those with the digits nearest to its value. The digits are found by trying the two neighbours of the
value on the grid of one, two, up to seventeen digits, in exact integer arithmetic.
-/

namespace Redline.Decimal

/-- A decimal `0.d₁d₂… · 10 ^ point`: its digits as one number, their count, and the place of the
point. -/
structure Digits where
  /-- The digits, as one number. -/
  value : Nat
  /-- How many digits there are. -/
  count : Nat
  /-- The place of the decimal point, counted from the first digit. -/
  point : Int
deriving DecidableEq, Repr

/-- The number of decimal digits of a number; one for zero. -/
def digitCount (n : Nat) : Nat := (Nat.toDigits 10 n).length

/-- The place of the decimal point of `num / den`: the least `p` with `num / den < 10 ^ p`, found
from an estimate that is at most one too small. -/
def pointOf (num den : Nat) : Int :=
  let estimate : Int := (digitCount num : Int) - (digitCount den : Int)
  let below :=
    if 0 ≤ estimate then num < den * Nat.pow 10 estimate.toNat
    else num * Nat.pow 10 (-estimate).toNat < den
  if below then estimate else estimate + 1

/-- The numbers with the given first digits dropped of their final zeros. -/
def dropZeros (d : Digits) : Nat → Digits
  | 0 => d
  | fuel + 1 =>
    if d.value % 10 = 0 ∧ 1 < d.count then
      dropZeros ⟨d.value / 10, d.count - 1, d.point⟩ fuel
    else d

/-- The interval of values that read back as a double, times `4 · 2 ^ 1074 / 2 ^ exponent`, with its
ends belonging to it or not. -/
structure Interval where
  /-- The lower end. -/
  low : Nat
  /-- The upper end. -/
  high : Nat
  /-- Whether the ends belong to the interval. -/
  closed : Bool

/-- The values that read back as a double. Below a power of two the neighbour is only half as far.
-/
def Double.interval (d : Double) : Interval where
  low := 4 * d.significand - (if d.significand = Nat.pow 2 52 ∧ 0 < d.exponent then 1 else 2)
  high := 4 * d.significand + 2
  closed := d.significand % 2 = 0

/-- The shortest digits on a grid of `count` digits or more, up to seventeen. -/
def searchDigits (d : Double) (point : Int) : Nat → Nat → Digits
  | count, 0 =>
    ⟨0, count, point⟩
  | count, fuel + 1 =>
    let unit := Nat.pow 2 d.exponent
    let power : Int := point - (count : Int)
    -- the value and the interval in units of the grid are `x * up / down`
    let up := unit * (if power < 0 then Nat.pow 10 (-power).toNat else 1)
    let down := 4 * Nat.pow 2 1074 * (if 0 ≤ power then Nat.pow 10 power.toNat else 1)
    let interval := d.interval
    let value := 4 * d.significand * up
    let low := value / down
    let inside (candidate : Nat) : Bool :=
      let x := candidate * down
      if interval.closed then interval.low * up ≤ x && x ≤ interval.high * up
      else interval.low * up < x && x < interval.high * up
    let toLow := value - low * down
    let toHigh := (low + 1) * down - value
    let pick (candidate : Nat) : Digits :=
      if digitCount candidate = count then dropZeros ⟨candidate, count, point⟩ count
      else dropZeros ⟨candidate, count + 1, point + 1⟩ (count + 1)
    match inside low && low ≠ 0, inside (low + 1) with
    | true, true =>
      if toLow < toHigh then pick low
      else if toHigh < toLow then pick (low + 1)
      else if low % 2 = 0 then pick low else pick (low + 1)
    | true, false => pick low
    | false, true => pick (low + 1)
    | false, false => searchDigits d point (count + 1) fuel

/-- The fewest digits that read back as the given positive double, nearest to its value. -/
def Double.shortest (d : Double) : Digits :=
  searchDigits d (pointOf (d.significand * Nat.pow 2 d.exponent) (Nat.pow 2 1074)) 1 17

/-! ## Written form -/

/-- The decimal digits of a number. -/
def writeNat (n : Nat) : List Char := Nat.toDigits 10 n

def writeExponent (exponent : Int) : List Char :=
  (if exponent < 0 then '-' else '+') :: writeNat exponent.natAbs

/-- The digits in positional form for a decimal exponent between -5 and 15, else with an exponent. A
whole number in positional form ends in `.0`. -/
def Digits.write (d : Digits) : List Char :=
  let digits := writeNat d.value
  let exponent := d.point - 1
  if exponent < -5 ∨ 15 < exponent then
    match digits with
    | [digit] => digit :: 'e' :: writeExponent exponent
    | digit :: more => digit :: '.' :: more ++ 'e' :: writeExponent exponent
    | [] => []
  else if d.point ≤ 0 then
    '0' :: '.' :: List.replicate (-d.point).toNat '0' ++ digits
  else if (d.count : Int) ≤ d.point then
    digits ++ List.replicate (d.point.toNat - d.count) '0' ++ ['.', '0']
  else
    digits.take d.point.toNat ++ '.' :: digits.drop d.point.toNat

/-- The shortest decimal of a double. -/
def Double.write (d : Double) : List Char :=
  let magnitude := if d.significand = 0 then ['0', '.', '0'] else d.shortest.write
  if d.negative then '-' :: magnitude else magnitude

/-! ## Plain form -/

/-- The digits in positional form whatever the exponent, without a final `.0`. -/
def Digits.writePlain (d : Digits) : List Char :=
  let digits := writeNat d.value
  if d.point ≤ 0 then
    '0' :: '.' :: List.replicate (-d.point).toNat '0' ++ digits
  else if (d.count : Int) ≤ d.point then
    digits ++ List.replicate (d.point.toNat - d.count) '0'
  else
    digits.take d.point.toNat ++ '.' :: digits.drop d.point.toNat

/-- The shortest decimal of a double in positional form. -/
def Double.writePlain (d : Double) : List Char :=
  let magnitude := if d.significand = 0 then ['0'] else d.shortest.writePlain
  if d.negative then '-' :: magnitude else magnitude

end Redline.Decimal
