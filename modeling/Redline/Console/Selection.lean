import Redline.Backend.Scripted
import Redline.Command.Exchange
import Redline.Console.Settings
import Redline.FileTree.Access
import Redline.Http.Exchange

/-!
# Selecting a backend

The settings name one of three backends: the scripted one, which is the default, the one that asks a
service over HTTP, and the one that runs a program.
-/

namespace Redline.Console

open Redline.Http

/-- A backend that was selected, with what it needs to answer. -/
inductive Selection
  /-- The scripted backend. -/
  | scripted (backend : ScriptedBackend)
  /-- The backend that asks a service. -/
  | http (config : HttpConfig)
  /-- The backend that runs a program. -/
  | command (config : CommandConfig)

namespace Selection

/-- The name of the HTTP backend. -/
def httpId : String := "http"

def profile : Selection → BackendProfile
  | .scripted backend => backend.profile
  | .http config => config.profile
  | .command config => config.profile

/-- The failure for a variable that the named backend needs. -/
def lacking (v : Variable) (backend : String) : Failure :=
  ⟨v.name ++ " must be set when " ++ Variable.backend.name ++ "=" ++ backend, []⟩

/-- Reads the configuration of the HTTP backend from a file. Relative paths start at `here`. -/
def loadHttp (tree : FileTree) (here : TreePath) (path : String) : Except HttpError HttpConfig :=
  match tree.readText (Route.ofText here path) with
  | .ok text => HttpConfig.ofText text
  | .error fault => .error (.configRead path fault.message)

/-- The HTTP backend of the settings. -/
def ofHttp (tree : FileTree) (here : TreePath) (s : Settings) : Except Failure Selection :=
  match s.httpConfigPath with
  | none => .error (lacking .httpConfigPath httpId)
  | some path =>
    match loadHttp tree here path with
    | .ok config => .ok (.http config)
    | .error e => .error ⟨"invalid HTTP backend config " ++ path, [e.message]⟩

/-- The command backend of the settings. -/
def ofCommand (s : Settings) : Except Failure Selection :=
  match s.command with
  | none => .error (lacking .command CommandConfig.backendId)
  | some line =>
    match CommandConfig.ofCommandLine line with
    | .error e => .error ⟨"invalid " ++ Variable.command.name, [e.message]⟩
    | .ok config => do
      let config := ((← s.commandLimit).map config.withTimeout).getD config
      let config := (s.model.map config.withModel).getD config
      match config.checked with
      | .ok config => .ok (.command config)
      | .error e => .error ⟨e.message, []⟩

/-- The backend that the settings name. -/
def ofSettings (tree : FileTree) (here : TreePath) (s : Settings) : Except Failure Selection :=
  let name := s.backend.getD ScriptedBackend.backendId
  if name = ScriptedBackend.backendId then .ok (.scripted (.ofScript []))
  else if name = httpId then ofHttp tree here s
  else if name = CommandConfig.backendId then ofCommand s
  else .error ⟨"Unsupported backend '" ++ name ++ "'. Available backends: " ++
    ScriptedBackend.backendId ++ ", " ++ httpId ++ ", " ++ CommandConfig.backendId, []⟩

end Selection

/-! ## Answering -/

/-- A selected backend with the states of a transport and a launcher. -/
structure Service (τ ω : Type) where
  /-- The backend. -/
  selection : Selection
  /-- The state of the transport. -/
  transport : τ
  /-- The state of the launcher. -/
  launcher : ω

namespace Service

variable {τ ω : Type}

/-- Answers a request with the selected backend. -/
def send (T : Transport τ) (L : Launcher ω) (request : Request) (s : Service τ ω) :
    Answer × Service τ ω :=
  match s.selection with
  | .scripted backend =>
    let (answer, backend) := backend.send request
    (answer, { s with selection := .scripted backend })
  | .http config =>
    let (answer, transport) := (config.backend T).send request s.transport
    (answer, { s with transport })
  | .command config =>
    let (answer, launcher) := (config.backend L).send request s.launcher
    (answer, { s with launcher })

def backend (T : Transport τ) (L : Launcher ω) : Backend (Service τ ω) where
  profile s := s.selection.profile
  send := send T L

end Service

end Redline.Console
