import Redline.Console.App
import Redline.Console.Selection
import Redline.Text.Line

/-!
# The program

The program is started with an environment and a directory. It finds the workspace and the backend,
shows a banner, and answers the lines of its input in order until one of them ends it. A request is
answered by its backend before the next line is read.
-/

namespace Redline.Console

open Redline.Http

section Program

variable {τ : Type} (T : Transport τ) (L : Launcher FileTree)

/-- The state of the program. -/
abbrev Running (τ : Type) := App (Service τ FileTree)

/-- The workspace of the settings. -/
def workspaceOf (tree : FileTree) (here : TreePath) (s : Settings) : Except Failure Workspace :=
  let path := s.workspace.getD (Route.text here)
  match Workspace.ofPath tree here path with
  | .ok workspace => .ok workspace
  | .error e =>
    .error ⟨"cannot use workspace " ++ path,
      e.message :: (e.fault?.map Fault.message).toList⟩

/-- Starts the program in a directory of a tree. -/
def start (transport : τ) (tree : FileTree) (here : TreePath) (env : Environment) :
    Except Failure (Running τ) := do
  let settings := Settings.ofEnvironment env
  let workspace ← workspaceOf tree here settings
  let selection ← Selection.ofSettings tree here settings
  let session := Session.ofOptions (settings.sessionOptions selection.profile.defaultModel)
  .ok (Host.start session workspace ⟨selection, transport, tree⟩)

/-- Lets the backend answer, which sees the files of the workspace as they are now. -/
def answer (app : Running τ) : Running τ :=
  let app := { app with backend := { app.backend with launcher := app.surface.tree } }
  app.finishWorkers (Service.backend T L)

def step (app : Running τ) (line : String) : Response (Running τ) :=
  let response := handleLine (Service.backend T L) app line
  if response.isEnd || response.state.workers.isEmpty then response
  else
    let woken := handleWake (answer T L response.state)
    { woken with lines := response.lines ++ woken.lines }

/-- Answers lines in order until one of them ends the program. -/
def steps (app : Running τ) : List String → List String × Running τ
  | [] => ([], app)
  | line :: more =>
    let response := step T L app line
    if response.isEnd then (response.lines, response.state)
    else
      let (lines, app) := steps response.state more
      (response.lines ++ lines, app)

/-- What the program shows and how it leaves the files. -/
structure ProgramResult where
  /-- What is printed. -/
  stdout : String
  /-- The report of a failure. -/
  stderr : String
  /-- The exit code. -/
  code : Nat
  /-- The file tree. -/
  tree : FileTree

/-- Runs the program on an input. -/
def run (transport : τ) (tree : FileTree) (here : TreePath) (env : Environment) (input : String) :
    ProgramResult :=
  match start transport tree here env with
  | .error failure => ⟨"", failure.report, 1, tree⟩
  | .ok app =>
    let (lines, app') := steps T L app (Text.displayLinesOf input)
    ⟨printed (bannerLines (Service.backend T L) app ++ lines), "", 0, app'.surface.tree⟩

end Program

end Redline.Console
