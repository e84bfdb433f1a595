import Redline.Text.Numeral
import Redline.Text.Split

/-!
# Hunk headers

A hunk begins with a header `@@ -a,b +c,d @@` that gives its range in the base text and in the
proposed text. Ranges are kept with starts counted from zero. In the header they are counted from
one, except that an empty range names the line before it.
-/

namespace Redline.Patch

open Redline.Text

/-! ## Ranges -/

/-- A range of lines. -/
structure LineRange where
  /-- The number of lines before the range. -/
  start : Nat
  /-- The number of lines in the range. -/
  length : Nat
deriving DecidableEq, Repr

namespace LineRange

/-- The start of a range as a header shows it. -/
def shownStart (r : LineRange) : Nat := if r.length = 0 then r.start else r.start + 1

/-- The range with the given shown start and length, if there is one. -/
def ofShown? (start length : Nat) : Option LineRange :=
  if length = 0 then some ⟨start, 0⟩
  else if start = 0 then none
  else some ⟨start - 1, length⟩

def write (r : LineRange) : List Char :=
  Nat.toDigits 10 r.shownStart ++ ',' :: Nat.toDigits 10 r.length

def read? (cs : List Char) : Option LineRange :=
  match cutFirst? (· == ',') cs with
  | none => none
  | some (start, length) =>
    match readNumeral wordBound start, readNumeral wordBound length with
    | .ok start, .ok length => ofShown? start length
    | _, _ => none

end LineRange

/-! ## Headers -/

/-- The ranges of a hunk. -/
structure Header where
  /-- The range in the base text. -/
  old : LineRange
  /-- The range in the proposed text. -/
  new : LineRange
deriving DecidableEq, Repr

namespace Header

def write (h : Header) : List Char :=
  ['@', '@', ' ', '-'] ++ (h.old.write ++ [' ', '+'] ++ h.new.write) ++ [' ', '@', '@']

/-- The two parts of a text at the first place where ` +` stands. -/
def cutAtPlus? : List Char → Option (List Char × List Char)
  | [] => none
  | c :: cs =>
    if c = ' ' ∧ cs.head? = some '+' then some ([], cs.tail)
    else (cutAtPlus? cs).map fun (before, after) ↦ (c :: before, after)

def read? (cs : List Char) : Option Header := do
  let body ← dropBeginning? ['@', '@', ' ', '-'] cs
  let body ← dropEnding? [' ', '@', '@'] body
  let (old, new) ← cutAtPlus? body
  let old ← LineRange.read? old
  let new ← LineRange.read? new
  some ⟨old, new⟩

def render (h : Header) : String := String.ofList h.write

end Header

end Redline.Patch
