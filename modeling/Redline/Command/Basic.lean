import Redline.Backend.Basic
import Redline.Duration
import Redline.Json.Reader

/-!
# Commands as backends

A backend can be a program of the user's: it is started for every request, gets the request on its
standard input, and writes the reply to its standard output. The command line names the program and
its arguments, separated by white space. A program that takes too long is stopped.
-/

namespace Redline

/-! ## Configuration -/

/-- How a program is run. -/
structure CommandConfig where
  /-- The program. -/
  program : String
  /-- Its arguments. -/
  args : List String
  /-- How long it may take. -/
  timeout : Duration
  /-- The model it is said to offer. -/
  model : String
deriving DecidableEq, Repr

/-- What goes wrong with a program. -/
inductive CommandError
  /-- No program is named. -/
  | emptyCommand
  /-- The program cannot be started. -/
  | spawn (program cause : String)
  /-- The exchange with the program breaks off at a stage. -/
  | io (stage cause : String)
  /-- The program takes longer than it may. -/
  | timeout (limit : Duration)
  /-- The program does not end well. -/
  | exit (status stderr : String)
  /-- What the program writes is no text. -/
  | invalidUtf8
  /-- What the program writes is not JSON. -/
  | invalidJson (cause : String)
deriving DecidableEq, Repr

namespace CommandError

def message : CommandError → String
  | .emptyCommand => "backend command is empty"
  | .spawn program cause => "failed to spawn \x60" ++ program ++ "\x60: " ++ cause
  | .io stage cause => "failed while " ++ stage ++ ": " ++ cause
  | .timeout limit => "no reply within " ++ limit.displaySeconds ++ "s"
  | .exit status stderr => "command exited with " ++ status ++ ": " ++ stderr
  | .invalidUtf8 => "stdout is not valid UTF-8"
  | .invalidJson cause => "stdout is not a JSON reply: " ++ cause

def kind : CommandError → BackendErrorKind
  | .timeout _ => .timeout
  | .invalidUtf8 | .invalidJson _ => .protocol
  | .emptyCommand | .spawn _ _ | .io _ _ | .exit _ _ => .process

def toBackendError (e : CommandError) : BackendError := ⟨e.kind, e.message⟩

end CommandError

namespace CommandConfig

/-- How long a program may take unless told otherwise. -/
def defaultTimeout : Duration := .ofSecs 120

/-- The name of the backend, and of the model of a program for which none is given. -/
def backendId : String := "process"

/-- A program with its arguments. -/
def ofProgram (program : String) (args : List String) : CommandConfig :=
  ⟨program, args, defaultTimeout, "default"⟩

def ofCommandLine (line : String) : Except CommandError CommandConfig :=
  match Text.words line with
  | [] => .error .emptyCommand
  | program :: args => .ok (ofProgram program args)

/-- Sets how long the program may take. -/
def withTimeout (config : CommandConfig) (timeout : Duration) : CommandConfig :=
  { config with timeout }

/-- Sets the model unless it is blank. -/
def withModel (config : CommandConfig) (model : String) : CommandConfig :=
  { config with model := (Text.trimmed? model).getD config.model }

/-- A configuration that names a program. -/
def checked (config : CommandConfig) : Except CommandError CommandConfig :=
  if Text.isBlankText config.program then .error .emptyCommand else .ok config

def profile (config : CommandConfig) : BackendProfile := .ofModel backendId config.model

end CommandConfig

end Redline
