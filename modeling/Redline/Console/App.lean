import Redline.Console.Command
import Redline.Session.Host
import Redline.Workspace.Batch

/-!
# The console

The console hosts a session over a workspace. It answers every line of the user with lines of its
own, and shows the conversation again whenever it has changed. Warnings are shown before everything
else.

When an outcome of the backend is waiting, the console is woken up and delivers it.
-/

namespace Redline.Console

/-- What the console answers. -/
structure Response (α : Type) where
  /-- The lines to show. -/
  lines : List String
  /-- Whether the program ends. -/
  isEnd : Bool := false
  /-- The state afterwards. -/
  state : α

/-- A line of every warning among some events. -/
def warningLines (events : List Event) : List String := (Event.warnings events).map ("! " ++ ·)

/-- The lines that show a conversation, after an empty one. -/
def sessionLines (session : Session) : List String := "" :: session.render

section App

variable {β : Type} (B : Backend β)

/-- The state of a console. -/
abbrev App (β : Type) := Host Workspace β

/-- The lines shown at the start. -/
def bannerLines (app : App β) : List String := [
  "patchwise | backend: " ++ (B.profile app.backend).id ++ " | workspace: " ++
    Route.text app.surface.root,
  "/open a file to start, /help for commands"]

/-- Shows lines and changes nothing. -/
def say (app : App β) (lines : List String) : Response (App β) := { lines, state := app }

def submitLine (app : App β) (text : String) : Response (App β) :=
  if Text.isBlankText text then say app []
  else
    let (outcome, events, app) := app.submit Workspace.surface text
    match outcome with
    | .ignored => say app (warningLines events ++ ["still waiting for the previous reply"])
    | .dispatched _ | .rejected => say app (warningLines events ++ sessionLines app.session)

def focusFile (app : App β) (path : String) : Response (App β) :=
  match app.surface.focusOn path with
  | .ok (path, workspace) =>
    { lines := ["active file: " ++ path], state := { app with surface := workspace } }
  | .error e => say app ["cannot open " ++ path ++ ": " ++ e.message]

def trackFile (app : App β) (path : String) : Response (App β) :=
  match app.session.addContextFile path with
  | .ok (true, session) =>
    say (app.withSession session) ["added " ++ Text.trim path ++ " to context"]
  | .ok (false, session) =>
    say (app.withSession session) [Text.trim path ++ " is already in context"]
  | .error e => say app [e.message]

def untrackFile (app : App β) (path : String) : Response (App β) :=
  match app.session.removeContextFile path with
  | (true, session) =>
    say (app.withSession session) ["removed " ++ Text.trim path ++ " from context"]
  | (false, session) => say (app.withSession session) [Text.trim path ++ " is not in context"]

/-- The focused file and the context files. -/
def contextLines (app : App β) : List String :=
  ("active: " ++ app.surface.focus.getD "(none)") ::
    match app.session.context.paths with
    | [] => ["context: (none)"]
    | paths => paths.map ("context: " ++ ·)

/-- Shows the model, or selects one. -/
def modelCommand (app : App β) : Option String → Response (App β)
  | none =>
    say app ["model: " ++ app.session.model ++ " (available: " ++
      Text.joinWith ", " (B.profile app.backend).models ++ ")"]
  | some model =>
    match app.session.setModel model with
    | .ok session => say (app.withSession session) ["model: " ++ model]
    | .error e => say app [e.message]

/-- Applies the changes of a turn, or of the latest turn that has some. -/
def applyCommand (app : App β) (turn : Option Nat) : Response (App β) :=
  let (result, events, app) := app.apply Workspace.surface turn
  say app (warningLines events ++ [match result with
    | .ok report => "applied " ++ toString report.paths.length ++ " file(s): " ++
        Text.joinWith ", " report.paths
    | .error e => "apply failed: " ++ e.message])

/-- Carries out a command. -/
def runCommand (app : App β) : Command → Response (App β)
  | .help => say app (helpLines.map ("  " ++ ·))
  | .clear => say app.clear (sessionLines app.clear.session)
  | .focus path => focusFile app path
  | .track path => trackFile app path
  | .untrack path => untrackFile app path
  | .listContext => say app (contextLines app)
  | .model id => modelCommand B app id
  | .apply turn => applyCommand app turn
  | .quit => { lines := [], isEnd := true, state := app }
  | .usage form => say app ["usage: " ++ form]
  | .unknown name => say app ["unknown command " ++ name ++ ", try /help"]

/-- Answers a line. -/
def handleLine (app : App β) (line : String) : Response (App β) :=
  match Command.ofLine? line with
  | some command => runCommand B app command
  | none => submitLine app line

/-- Delivers the outcomes that are waiting. -/
def handleWake (app : App β) : Response (App β) :=
  let (count, events, app) := app.drain Workspace.surface
  say app (warningLines events ++ if count = 0 then [] else sessionLines app.session)

end App

/-- Lines as they are printed. -/
def printed (lines : List String) : String := String.join (lines.map (· ++ "\n"))

end Redline.Console
