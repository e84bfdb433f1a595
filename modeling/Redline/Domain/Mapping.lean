import Redline.Domain.MappingTable

/-!
# Mapping the characters of a name

Names that differ only in the case, the width or the composition of their characters are the same
name. So every character of a name is mapped first: it stays, it is replaced by others, it is
dropped, or the name is none.
-/

namespace Redline.Domain

open Redline.Text

/-- What stands in the place of a code point under a rule, if the rule is for it. -/
def MappingRule.replacement? (rule : MappingRule) (n : Nat) : Option (List Char) :=
  let distance := n - rule.range.first
  if rule.range.contains n && distance % rule.step == 0 then
    let target := match rule.isMoving, rule.target.reverse with
      | true, last :: before => before.reverse ++ [last + distance]
      | _, _ => rule.target
    some (target.map Char.ofNat)
  else none

/-- The characters that a character is mapped to, or `none` if no name may hold it. The separators
of ASCII stay here; they are looked for at the end. -/
def mapChar? (c : Char) : Option (List Char) :=
  if c.toNat < 0x80 then some [asciiLower c]
  else match mappingRules.findSome? (·.replacement? c.toNat) with
    | some target => some target
    | none =>
      if isAmong droppedRanges c then some []
      else if isAmong forbiddenRanges c then none
      else some [c]

/-- The characters that a name is mapped to, or `none` if it holds a forbidden one. -/
def mapName? (cs : List Char) : Option (List Char) := (cs.mapM mapChar?).map List.flatten

def isPlain (c : Char) : Bool := mapChar? c == some [c]

end Redline.Domain
