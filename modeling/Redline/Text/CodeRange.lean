import Redline.Text.Percent
import Redline.Text.Split

/-!
# Ranges of code points

A property of characters is a table of ranges of code points. The long tables are written as rows of
text, in which blanks stand between the entries and all numbers are hexadecimal: `300-36F` is the
range from U+0300 to U+036F, and `5BF` holds U+05BF alone.
-/

namespace Redline.Text

/-- The code points between two, both included. -/
structure CodeRange where
  /-- The least code point. -/
  first : Nat
  /-- The greatest code point. -/
  last : Nat
deriving DecidableEq, Repr

/-- Whether a code point lies in a range. -/
def CodeRange.contains (range : CodeRange) (n : Nat) : Bool := range.first ≤ n && n ≤ range.last

/-- Whether a character lies in one of some ranges. -/
def isAmong (ranges : List CodeRange) (c : Char) : Bool := ranges.any (·.contains c.toNat)

/-! ## Tables as text -/

/-- The entries of a table that is written in rows. -/
def entries (rows : List String) : List (List Char) := rows.flatMap fun row ↦ fields ' ' row.toList

/-- The number that hexadecimal digits denote. -/
def hexNumber (cs : List Char) : Nat := cs.foldl (fun n c ↦ n * 16 + (hexDigitValue? c).getD 0) 0

/-- The range that an entry of a table denotes. -/
def CodeRange.ofEntry (cs : List Char) : CodeRange :=
  match cutFirst? (· == '-') cs with
  | some (first, last) => ⟨hexNumber first, hexNumber last⟩
  | none => ⟨hexNumber cs, hexNumber cs⟩

/-- The ranges of a table that is written in rows. -/
def CodeRange.table (rows : List String) : List CodeRange := (entries rows).map CodeRange.ofEntry

end Redline.Text
