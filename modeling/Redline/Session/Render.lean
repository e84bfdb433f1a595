import Redline.Session.Basic
import Redline.Text.Line

/-!
# A session in plain text

A session is shown as lines: its turns in order, each with its index, and a last line about its
state. Texts of several lines are indented below their first line. A proposal shows the patch of
every file.
-/

namespace Redline

open Redline.Text

/-- The lines of a text under a label: the first beside it, the others indented. -/
def labelled (label text : String) : List String :=
  match displayLinesOf text with
  | [] => [label ++ ":"]
  | first :: rest => (label ++ ": " ++ first) :: rest.map ("    " ++ ·)

/-- The label of a turn. -/
def turnLabel (index : Nat) (label : String) : String := "[" ++ toString index ++ "] " ++ label

def PatchLine.render (l : PatchLine) : String :=
  match l.kind with
  | .header => l.text
  | kind => kind.sign ++ l.displayText

/-- A line of a patch as shown, with a remark when it has no terminator. -/
def PatchLine.renderLines (l : PatchLine) : List String :=
  ("    " ++ l.render) ::
    (if l.isMissingNewline then ["    \\ No newline at end of file"] else [])

def FileChange.render (c : FileChange) : List String :=
  let patch := c.patch
  let title := "    --- " ++ c.path ++ " (+" ++ toString (patch.count .added) ++ " -" ++
    toString (patch.count .removed) ++ ")"
  title :: (if patch.isEmpty then ["    (no changes)"]
    else patch.lines.flatMap PatchLine.renderLines)

def ChangeSet.render (index : Nat) (changes : ChangeSet) : List String :=
  changes.changes.flatMap FileChange.render ++
    ["    /apply " ++ toString index ++ " to write these changes"]

def Turn.render (index : Nat) : Turn → List String
  | .userInput text => labelled (turnLabel index "you") text
  | .loading hint => [turnLabel index hint]
  | .explanation text => labelled (turnLabel index "assistant") text
  | .explanationWithChanges why changes | .multiFileChange why changes =>
    labelled (turnLabel index "assistant") why ++ changes.render index
  | .replaceFile changes =>
    turnLabel index "assistant proposes a replacement" :: changes.render index
  | .error message => labelled (turnLabel index "error") message

/-- The lines that show turns, the first of them having the given index. -/
def renderTurns (index : Nat) : List Turn → List String
  | [] => []
  | turn :: turns => turn.render index ++ renderTurns (index + 1) turns

namespace Session

/-- The line about the state of a session. -/
def statusLine (s : Session) : String :=
  let state := match s.state with
    | .idle => "idle"
    | .awaiting generation => "awaiting response to request " ++ toString generation
  "model: " ++ s.model ++ " | context files: " ++ toString s.context.paths.length ++ " | " ++ state

def render (s : Session) : List String := renderTurns 0 s.turns ++ [s.statusLine]

end Session

end Redline
