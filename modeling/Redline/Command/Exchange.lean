import Redline.Command.Basic
import Redline.Text.Utf8

/-!
# Exchanges with a program

The request is written to the program's standard input, and its reply is read from the standard
output when it has ended well. Of a program that ends badly the beginning of its error output is
reported.

How programs are started is left to a *launcher*, which may change its state with every program.
-/

namespace Redline

/-- How a program ends. -/
inductive Ending
  /-- With an exit code. -/
  | exited (code : Nat)
  /-- By a signal. -/
  | signalled
deriving DecidableEq, Repr

def Ending.message : Ending → String
  | .exited code => "exit code " ++ toString code
  | .signalled => "termination by signal"

/-- What becomes of a program. -/
inductive Launch
  /-- It cannot be started. -/
  | refused (cause : String)
  /-- It does not end in time. -/
  | late
  /-- It ends, having written to its outputs. -/
  | ended (ending : Ending) (stdout stderr : List UInt8)
deriving DecidableEq, Repr

/-- A way to run programs, over states of type `τ`. -/
structure Launcher (τ : Type) where
  /-- Runs a program with an input. -/
  run : CommandConfig → String → τ → Launch × τ

namespace CommandConfig

/-- How many bytes of a program's error output are reported. -/
def stderrLimit : Nat := 2048

/-- The reply in what a program writes to its standard output. -/
def replyOf (stdout : List UInt8) : Except CommandError Json :=
  match Text.decodeStrict? stdout with
  | none => .error .invalidUtf8
  | some text =>
    match Json.parse (Text.trim text) with
    | .ok value => .ok value
    | .error e => .error (.invalidJson e.message)

/-- The reply, or the error, that what becomes of a program stands for. -/
def resultOf (config : CommandConfig) : Launch → Except CommandError Json
  | .refused cause => .error (.spawn config.program cause)
  | .late => .error (.timeout config.timeout)
  | .ended (.exited 0) stdout _ => replyOf stdout
  | .ended ending _ stderr =>
    .error (.exit ending.message
      (Text.truncateToBytes stderrLimit (Text.trim (Text.decodeLossy stderr))))

section Exchange

variable {τ : Type} (L : Launcher τ)

/-- Runs the program with a request. -/
def exchange (config : CommandConfig) (request : Request) (s : τ) : Except CommandError Json × τ :=
  let (launch, s) := L.run config request.wireText s
  (config.resultOf launch, s)

/-- The backend with a configuration, over the states of a launcher. -/
def backend (config : CommandConfig) : Backend τ where
  profile _ := config.profile
  send request s :=
    match config.exchange L request s with
    | (.ok value, s) => (.reply value, s)
    | (.error e, s) => (.failure e.toBackendError, s)

end Exchange

end CommandConfig

end Redline
