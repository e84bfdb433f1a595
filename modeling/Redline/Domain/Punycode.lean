import Redline.Text.Split

/-!
# Labels outside ASCII

The labels of a domain name are ASCII. Other labels are written by bootstring encoding: first their
ASCII characters, then, in the order of the characters, how far each of the others is from the one
before it, as a number of variable length in base 36.

The encoder walks through the distinct characters outside ASCII in ascending order and keeps the
distance `delta` from the last one that it wrote. The decoder takes the digits one by one and puts
in a character whenever a number is complete. The thresholds of the digits follow a bias, which
adapts to the distances seen so far.
-/

namespace Redline.Domain.Punycode

open Redline.Text

/-! ## Numbers of variable length -/

/-- A digit: `a` to `z`, then `0` to `9`. -/
def digit (n : Nat) : Char := if n < 26 then Char.ofNat (0x61 + n) else Char.ofNat (0x30 + n - 26)

def digitValue? (c : Char) : Option Nat :=
  let n := c.toNat
  if 0x61 ≤ n && n ≤ 0x7A then some (n - 0x61)
  else if 0x30 ≤ n && n ≤ 0x39 then some (n - 0x30 + 26)
  else none

/-- The threshold of a digit at position `k`, which is counted in steps of 36. -/
def threshold (bias k : Nat) : Nat := if k ≤ bias then 1 else if bias + 26 ≤ k then 26 else k - bias

theorem one_le_threshold (bias k : Nat) : 1 ≤ threshold bias k := by
  unfold threshold; split <;> (try split) <;> omega

/-- The digits of a distance from position `k` on. -/
def digits (bias k q : Nat) : List Char :=
  let t := threshold bias k
  if q < t then [digit q]
  else digit (t + (q - t) % (36 - t)) :: digits bias (k + 36) ((q - t) / (36 - t))
termination_by q
decreasing_by
  have h := one_le_threshold bias k
  have := Nat.div_le_self (q - threshold bias k) (36 - threshold bias k)
  omega

/-- Brings a distance below the limit of the bias and counts the steps of 36. -/
def reduce (delta k : Nat) : Nat × Nat :=
  if 455 < delta then reduce (delta / 35) (k + 36) else (delta, k)
termination_by delta
decreasing_by omega

/-- The bias after a distance that brought the number of characters to `count`. -/
def adapt (delta count : Nat) (isFirst : Bool) : Nat :=
  let scaled := if isFirst then delta / 700 else delta / 2
  let (rest, k) := reduce (scaled + scaled / count) 0
  k + 36 * rest / (rest + 38)

/-- The bias at the start. -/
def firstBias : Nat := 72

/-! ## Encoding -/

/-- What has been written, and the numbers that decide how it goes on. -/
structure Writer where
  /-- The digits written. -/
  out : List Char := []
  /-- The distance from the last character written. -/
  delta : Nat := 0
  /-- The bias of the thresholds. -/
  bias : Nat := firstBias
  /-- How many characters have been written. -/
  count : Nat

/-- Looks at one character of the label while the characters `m` are written. -/
def Writer.look (basic m : Nat) (w : Writer) (c : Char) : Writer :=
  if c.toNat < m then { w with delta := w.delta + 1 }
  else if c.toNat = m then
    { out := w.out ++ digits w.bias 36 w.delta, delta := 0,
      bias := adapt w.delta (w.count + 1) (w.count == basic), count := w.count + 1 }
  else w

/-- Writes the characters `m` of a label for each `m` of an ascending list; those below `n` are
done. -/
def Writer.write (label : List Char) (basic : Nat) : List Nat → Nat → Writer → Writer
  | [], _, w => w
  | m :: rest, n, w =>
    let w := label.foldl (look basic m) { w with delta := w.delta + (m - n) * (w.count + 1) }
    write label basic rest (m + 1) { w with delta := w.delta + 1 }

/-- The characters of a label in ASCII. -/
def encode (label : List Char) : List Char :=
  let basic := label.filter fun c ↦ c.toNat < 0x80
  let others := (label.filter fun c ↦ 0x80 ≤ c.toNat).map Char.toNat
  let ascending := (others.mergeSort (· ≤ ·)).eraseDups
  let written := Writer.write label basic.length ascending 0x80 { count := basic.length }
  basic ++ (if basic.isEmpty then [] else ['-']) ++ written.out

/-! ## Decoding -/

/-- What has been read, and the number that is being read. -/
structure DecodeState where
  /-- The characters so far. -/
  label : List Char
  /-- The last code point put in. -/
  codePoint : Nat := 0x80
  /-- Where the number being read began: the place after the last character put in. -/
  start : Nat := 0
  /-- The start and the digits of the number read so far. -/
  total : Nat := 0
  /-- What the next digit counts. -/
  weight : Nat := 1
  /-- The position of the next digit, counted in steps of 36. -/
  position : Nat := 36
  /-- The bias of the thresholds. -/
  bias : Nat := firstBias

/-- The bound of the numbers that are read. -/
def numberBound : Nat := Nat.pow 2 32

/-- Puts in the character of a complete number, if it is one. -/
def DecodeState.putIn? (s : DecodeState) (total : Nat) : Option DecodeState :=
  let count := s.label.length + 1
  let codePoint := s.codePoint + total / count
  let place := total % count
  if codePoint.isValidChar then
    some { label := s.label.insertIdx place (Char.ofNat codePoint), codePoint,
           start := place + 1, total := place + 1,
           bias := adapt (total - s.start) count (s.start == 0) }
  else none

/-- Reads one digit. -/
def DecodeState.read? (s : DecodeState) (c : Char) : Option DecodeState := do
  let value ← digitValue? c
  let total := s.total + value * s.weight
  let t := threshold s.bias s.position
  if numberBound ≤ total then none
  else if value < t then s.putIn? total
  else if numberBound ≤ s.weight * (36 - t) then none
  else some { s with total, weight := s.weight * (36 - t), position := s.position + 36 }

/-- The label that characters in ASCII encode. Those before the last hyphen stand for themselves. -/
def decode? (cs : List Char) : Option (List Char) := do
  let (basic, rest) := match cutLast? (· == '-') cs with
    | some ([], _) | none => ([], cs)
    | some (basic, rest) => (basic, rest)
  let s ← rest.foldlM DecodeState.read? { label := basic }
  if s.position = 36 then some s.label else none

end Redline.Domain.Punycode
