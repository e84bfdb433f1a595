import Redline.Text.Blank

/-!
# Cutting text at characters

Paths are cut at slashes, lists of settings at commas, commands at their first blank. Every function
here works on lists of characters; those on `String` are wrappers.
-/

namespace Redline.Text

/-! ## Cutting everywhere -/

/-- The parts between the occurrences of `sep`; one more part than there are occurrences. -/
def fields (sep : Char) : List Char → List (List Char)
  | [] => [[]]
  | c :: cs =>
    if c = sep then [] :: fields sep cs
    else match fields sep cs with
      | [] => [[c]]
      | part :: parts => (c :: part) :: parts

/-- The parts of a text between the occurrences of `sep`. -/
def splitAll (sep : Char) (s : String) : List String := (fields sep s.toList).map String.ofList

/-- The texts one after the other with `sep` between each two. -/
def joinWith (sep : String) (parts : List String) : String := sep.intercalate parts

/-! ## Cutting once -/

/-- The characters before and after the first that satisfies `p`. -/
def cutFirst? (p : Char → Bool) : List Char → Option (List Char × List Char)
  | [] => none
  | c :: cs =>
    if p c then some ([], cs)
    else (cutFirst? p cs).map fun (before, after) ↦ (c :: before, after)

/-- The characters before and after the last that satisfies `p`. -/
def cutLast? (p : Char → Bool) (cs : List Char) : Option (List Char × List Char) :=
  (cutFirst? p cs.reverse).map fun (after, before) ↦ (before.reverse, after.reverse)

/-- The rest of a list after the given beginning, if it begins so. -/
def dropBeginning? : List Char → List Char → Option (List Char)
  | [], cs => some cs
  | _ :: _, [] => none
  | b :: bs, c :: cs => if b = c then dropBeginning? bs cs else none

/-- The list before the given ending, if it ends so. -/
def dropEnding? (ending cs : List Char) : Option (List Char) :=
  (dropBeginning? ending.reverse cs.reverse).map List.reverse

/-- A list that begins with `beginning`. -/
def startsWith (beginning cs : List Char) : Bool := (dropBeginning? beginning cs).isSome

/-- A list that ends with `ending`. -/
def endsWith (ending cs : List Char) : Bool := (dropEnding? ending cs).isSome

/-! ## Letters -/

/-- The letter in lower case if it is one of `A` to `Z`; every other character stays. -/
def asciiLower (c : Char) : Char :=
  if 'A'.toNat ≤ c.toNat ∧ c.toNat ≤ 'Z'.toNat then Char.ofNat (c.toNat + 32) else c

end Redline.Text
