import Redline.Decimal.Shortest
import Redline.Text.Numeral

/-!
# Durations

A duration is a number of seconds below `2 ^ 64` and a number of nanoseconds below a thousand
million. Multiplication stops at the longest duration.
-/

namespace Redline

open Redline.Decimal

/-- A length of time. -/
structure Duration where
  /-- The whole seconds. -/
  secs : Nat
  /-- The nanoseconds beyond them. -/
  nanos : Nat
deriving DecidableEq, Repr

namespace Duration

def nanosPerSec : Nat := 1000000000

/-- The longest duration. -/
def longest : Duration := ⟨Text.wordBound - 1, nanosPerSec - 1⟩

def ofSecs (n : Nat) : Duration := ⟨n, 0⟩

def ofMillis (n : Nat) : Duration := ⟨n / 1000, n % 1000 * 1000000⟩

def totalNanos (d : Duration) : Nat := d.secs * nanosPerSec + d.nanos

/-- The duration times a number, or the longest one if that is beyond it. -/
def scale (d : Duration) (n : Nat) : Duration :=
  let total := d.totalNanos * n
  if total / nanosPerSec < Text.wordBound then ⟨total / nanosPerSec, total % nanosPerSec⟩
  else longest

/-- The duration in seconds as a double: the seconds and the nanoseconds are each rounded to a
double, and so is their sum. -/
def seconds? (d : Duration) : Option Double := do
  let secs ← nearest? false d.secs 1
  let fraction ← nearest? false d.nanos nanosPerSec
  nearest? false (secs.units + fraction.units) (Nat.pow 2 1074)

/-- The duration in seconds as displayed. -/
def displaySeconds (d : Duration) : String :=
  match d.seconds? with
  | some x => String.ofList x.writePlain
  | none => ""

end Duration

end Redline
