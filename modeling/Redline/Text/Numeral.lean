/-!
# Numerals

Turn numbers, time limits and the ranges of a hunk header are read from decimal digits with an
optional leading plus sign. The value has to stay below a bound, which is `2 ^ 64` wherever a
numeral is read; reading goes from left to right, and the first character that is no digit or takes
the value out of bounds decides the error.
-/

namespace Redline.Text

/-- Why a text is not the numeral of a number below the bound. -/
inductive NumeralError
  /-- There is nothing to read. -/
  | empty
  /-- A character is not a digit. -/
  | invalidDigit
  /-- The value reaches the bound. -/
  | tooLarge
deriving DecidableEq, Repr

/-- The wording of a numeral's error. -/
def NumeralError.message : NumeralError → String
  | .empty => "cannot parse integer from empty string"
  | .invalidDigit => "invalid digit found in string"
  | .tooLarge => "number too large to fit in target type"

/-- The bound of the numbers that numerals denote: one more than the largest 64-bit number. -/
def wordBound : Nat := Nat.pow 2 64

/-- The value of a decimal digit. -/
def digitValue? (c : Char) : Option Nat :=
  if '0'.toNat ≤ c.toNat ∧ c.toNat ≤ '9'.toNat then some (c.toNat - '0'.toNat) else none

/-- The digits read after `value`, as long as the number stays below `bound`. -/
def readDigits (bound value : Nat) : List Char → Except NumeralError Nat
  | [] => .ok value
  | c :: cs =>
    match digitValue? c with
    | none => .error .invalidDigit
    | some d =>
      if value * 10 + d < bound then readDigits bound (value * 10 + d) cs else .error .tooLarge

/-- The number below `bound` that a numeral denotes. -/
def readNumeral (bound : Nat) : List Char → Except NumeralError Nat
  | [] => .error .empty
  | ['+'] => .error .invalidDigit
  | '+' :: cs => readDigits bound 0 cs
  | cs => readDigits bound 0 cs

/-- The 64-bit number that a text denotes. -/
def readWord (s : String) : Except NumeralError Nat := readNumeral wordBound s.toList

end Redline.Text
