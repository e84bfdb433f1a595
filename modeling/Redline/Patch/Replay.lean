import Redline.Patch.Basic
import Redline.Patch.Header
import Redline.Text.Quoted

/-!
# Replaying a patch

Replaying a patch on a text copies the lines between its hunks and replaces the old lines of each
hunk by its new lines. It fails at the first line of the patch that does not fit the text.
-/

namespace Redline.Patch

/-- Why a patch does not fit a text. Lines are counted from one. -/
inductive ReplayError
  /-- A header cannot be read. -/
  | malformedHeader (header : String)
  /-- A hunk starts before the end of the one before it. -/
  | overlappingHunk (line : Nat)
  /-- The text has too few lines. -/
  | missingLine (line : Nat)
  /-- A line of the text is not the one that the patch shows. -/
  | contextMismatch (line : Nat) (expected found : String)
  /-- A line stands before the first header. -/
  | lineOutsideHunk (kind : LineKind)
deriving DecidableEq, Repr

def ReplayError.message : ReplayError → String
  | .malformedHeader header => "malformed hunk header: " ++ header
  | .overlappingHunk line =>
    "hunk starting at original line " ++ toString line ++ " overlaps the previous hunk"
  | .missingLine line =>
    "original text has no line " ++ toString line ++ " expected by the patch"
  | .contextMismatch line expected found =>
    "original line " ++ toString line ++ " does not match the patch: expected " ++
      Text.quote expected ++ ", found " ++ Text.quote found
  | .lineOutsideHunk kind =>
    "patch line of kind " ++ kind.name ++ " appears before any hunk header"

/-- The state of a replay. -/
structure Progress where
  /-- The number of lines of the text read so far. -/
  cursor : Nat
  /-- Whether a header has been read. -/
  inHunk : Bool
  /-- The lines of the result so far, from the last to the first. -/
  output : List String

def Progress.start : Progress := ⟨0, false, []⟩

/-- The lines of a text from one position up to another. -/
def linesFrom (source : Array String) (i j : Nat) : List String := (source.extract i j).toList

/-- Replays one line of a patch. -/
def step (source : Array String) (p : Progress) (l : PatchLine) : Except ReplayError Progress :=
  match l.kind with
  | .header =>
    match Header.read? l.text.toList with
    | none => .error (.malformedHeader l.text)
    | some header =>
      let start := header.old.start
      if start < p.cursor then .error (.overlappingHunk (start + 1))
      else if source.size < start then .error (.missingLine start)
      else .ok ⟨start, true, (linesFrom source p.cursor start).reverse ++ p.output⟩
  | .added =>
    if !p.inHunk then .error (.lineOutsideHunk .added)
    else .ok { p with output := l.text :: p.output }
  | kind =>
    if !p.inHunk then .error (.lineOutsideHunk kind)
    else match source[p.cursor]? with
      | none => .error (.missingLine (p.cursor + 1))
      | some found =>
        if found ≠ l.text then .error (.contextMismatch (p.cursor + 1) l.text found)
        else .ok ⟨p.cursor + 1, true, if kind = .context then found :: p.output else p.output⟩

def steps (source : Array String) : Progress → List PatchLine → Except ReplayError Progress
  | p, [] => .ok p
  | p, l :: rest =>
    match step source p l with
    | .ok p => steps source p rest
    | .error e => .error e

/-- The text that a patch makes of a text. -/
def applyTo (patch : Patch) (base : String) : Except ReplayError String :=
  let source := Text.linesOf base
  match steps source .start patch.lines with
  | .error e => .error e
  | .ok p => .ok (String.join (p.output.reverse ++ linesFrom source p.cursor source.size))

end Redline.Patch
