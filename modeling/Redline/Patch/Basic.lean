import Redline.Text.Line

/-!
# Patches

A patch shows the difference of two texts as a list of lines: hunk headers, and below each the lines
that are kept, removed and added there. Lines carry their terminators.

A patch informs. What is written in the end is the proposed text itself, so a patch need not be
replayed, but it can be, which checks that it belongs to a text.
-/

namespace Redline

/-- What a line of a patch says. -/
inductive LineKind
  /-- The line is in the proposed text only. -/
  | added
  /-- The line is in the base text only. -/
  | removed
  /-- The line is in both texts. -/
  | context
  /-- The line opens a hunk. -/
  | header
deriving DecidableEq, Repr

/-- The sign in front of a line of a kind; a header has none. -/
def LineKind.sign : LineKind → String
  | .added => "+"
  | .removed => "-"
  | .context => " "
  | .header => ""

/-- The name of a kind in messages. -/
def LineKind.name : LineKind → String
  | .added => "Added"
  | .removed => "Removed"
  | .context => "Context"
  | .header => "HunkHeader"

/-- One line of a patch. -/
structure PatchLine where
  /-- What the line says. -/
  kind : LineKind
  /-- The line with its terminator, or the header without one. -/
  text : String
deriving DecidableEq, Repr

namespace PatchLine

/-- The line without its terminator. -/
def displayText (l : PatchLine) : String := String.ofList (Text.dropTerminator l.text.toList)

/-- A line of a text that has no terminator; only the last line of a text can be one. -/
def isMissingNewline (l : PatchLine) : Bool :=
  l.kind != .header && !Text.isTerminated l.text.toList

end PatchLine

/-- The difference of two texts. -/
structure Patch where
  /-- The lines of the patch, headers included. -/
  lines : List PatchLine
deriving DecidableEq, Repr

namespace Patch

def empty : Patch := ⟨[]⟩

def isEmpty (p : Patch) : Bool := p.lines.isEmpty

def count (p : Patch) (kind : LineKind) : Nat := p.lines.countP fun l ↦ l.kind == kind

def hunkCount (p : Patch) : Nat := p.count .header

end Patch

end Redline
