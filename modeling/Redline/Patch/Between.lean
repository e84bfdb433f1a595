import Redline.Diff.Group
import Redline.Patch.Basic
import Redline.Patch.Header

/-!
# The patch between two texts

The lines of both texts are compared, and every group of changes becomes a hunk with up to three
unchanged lines before and after. Equal texts have the empty patch.
-/

namespace Redline.Patch

open Redline.Diff

/-- The number of unchanged lines shown around a change. -/
def contextRadius : Nat := 3

/-- The lines of a sequence from `start` on, `length` of them, as lines of a kind. -/
def linesAs (kind : LineKind) (lines : Array String) (start length : Nat) : List PatchLine :=
  (lines.extract start (start + length)).toList.map fun text ↦ ⟨kind, text⟩

/-- The lines of a block: those that are kept, or those removed and then those added. -/
def blockLines (old new : Array String) (b : Block) : List PatchLine :=
  if b.isEqual then linesAs .context old b.old b.oldLength
  else linesAs .removed old b.old b.oldLength ++ linesAs .added new b.new b.newLength

/-- The number of lines from one place to another. It is counted in a 64-bit word and so wraps
around if the second place comes before the first. -/
def wordSpan (start stop : Nat) : Nat := (Text.wordBound + stop - start) % Text.wordBound

/-- The ranges of a group, from the start of its first block to the end of its last. -/
def groupHeader (first last : Block) : Header where
  old := ⟨first.old, wordSpan first.old (last.old + last.oldLength)⟩
  new := ⟨first.new, wordSpan first.new (last.new + last.newLength)⟩

/-- The lines of the hunk of a group. -/
def hunkLines (old new : Array String) (group : List Block) : List PatchLine :=
  match group, group.getLast? with
  | first :: _, some last =>
    ⟨.header, (groupHeader first last).render⟩ :: group.flatMap (blockLines old new)
  | _, _ => []

/-- The patch between a base text and a proposed text. -/
def between (base proposed : String) : Patch :=
  if base = proposed then .empty
  else
    let old := Text.linesOf base
    let new := Text.linesOf proposed
    ⟨(groupsBetween contextRadius old new).flatMap (hunkLines old new)⟩

end Redline.Patch
