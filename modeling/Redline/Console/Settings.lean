import Redline.Console.Failure
import Redline.Duration
import Redline.Session.Options
import Redline.Text.Blank

/-!
# Settings

The program is set up by environment variables. A variable that is blank counts as unset. Only some
of the values are cut free of white space; the others are kept as they are given.
-/

namespace Redline.Console

open Redline.Text

/-! ## Variables -/

/-- The names of the variables. -/
inductive Variable
  | backend
  | httpConfigPath
  | command
  | commandTimeout
  | model
  | workspace
  | extensions
  | logFilter
  | loadingHint
deriving DecidableEq, Repr

def Variable.name : Variable → String
  | .backend => "PATCHWISE_BACKEND"
  | .httpConfigPath => "PATCHWISE_HTTP_CONFIG_PATH"
  | .command => "PATCHWISE_PROCESS_COMMAND"
  | .commandTimeout => "PATCHWISE_PROCESS_TIMEOUT_SEC"
  | .model => "PATCHWISE_MODEL"
  | .workspace => "PATCHWISE_WORKSPACE"
  | .extensions => "PATCHWISE_FILE_EXTENSIONS"
  | .logFilter => "PATCHWISE_LOG"
  | .loadingHint => "PATCHWISE_LOADING_HINT"

def Variable.all : List Variable :=
  [.backend, .httpConfigPath, .command, .commandTimeout, .model, .workspace, .extensions,
    .logFilter, .loadingHint]

/-- The values of the environment by name. -/
abbrev Environment := List (String × String)

/-- The value of a variable unless it is blank. -/
def Environment.value? (env : Environment) (v : Variable) : Option String :=
  (env.lookup v.name).filter fun value ↦ !isBlankText value

/-! ## Settings -/

/-- The settings of the program. -/
structure Settings where
  /-- The name of the backend. -/
  backend : Option String
  /-- The path of the configuration of the HTTP backend. -/
  httpConfigPath : Option String
  /-- The command line of the command backend. -/
  command : Option String
  /-- The time limit of the command backend in seconds, as given. -/
  commandTimeout : Option String
  /-- The model. -/
  model : Option String
  /-- The path of the workspace. -/
  workspace : Option String
  /-- The extensions of files that may be active. -/
  extensions : List String
  /-- What is shown while a request is under way. -/
  loadingHint : Option String
  /-- What is logged. -/
  logFilter : Option String
deriving DecidableEq, Repr

/-- What is logged unless told otherwise. -/
def defaultLogFilter : String :=
  "patchwise=info,patchwise_cli=info,backend_http=warn,backend_process=warn,workspace_fs=warn"

/-- The items of a list with commas, without white space around them and without blank ones. -/
def itemsOf (s : String) : List String := (splitAll ',' s).filterMap trimmed?

namespace Settings

/-- The settings of an environment. -/
def ofEnvironment (env : Environment) : Settings where
  backend := (env.value? .backend).map trim
  httpConfigPath := env.value? .httpConfigPath
  command := env.value? .command
  commandTimeout := env.value? .commandTimeout
  model := (env.value? .model).map trim
  workspace := env.value? .workspace
  extensions := ((env.value? .extensions).map itemsOf).getD []
  loadingHint := env.value? .loadingHint
  logFilter := env.value? .logFilter

/-- What is logged. -/
def logged (s : Settings) : String := s.logFilter.getD defaultLogFilter

/-- The time limit of the command backend: a positive number of seconds. -/
def commandLimit (s : Settings) : Except Failure (Option Duration) :=
  match s.commandTimeout with
  | none => .ok none
  | some given =>
    match readWord (trim given) with
    | .error e =>
      .error ⟨Variable.commandTimeout.name ++ " must be a whole number of seconds", [e.message]⟩
    | .ok 0 => .error ⟨Variable.commandTimeout.name ++ " must be greater than zero", []⟩
    | .ok seconds => .ok (some (.ofSecs seconds))

/-- The options of a session with a backend whose default model is given. -/
def sessionOptions (s : Settings) (defaultModel : String) : SessionOptions :=
  let options := ({} : SessionOptions).withModel (s.model.getD defaultModel)
  let options := options.withExtensions s.extensions
  match s.loadingHint with
  | some hint => options.withLoadingHint (trim hint)
  | none => options

end Settings

end Redline.Console
