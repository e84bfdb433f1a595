import Redline.Backend.Basic
import Redline.Http.Status

/-!
# Errors of the HTTP backend

What can go wrong with the configuration, the connection and the response, the wording of each
error, and the kind of backend error that it is. The message of an error response is taken from its
body.
-/

namespace Redline.Http

open Redline.Json

/-- What went wrong. -/
inductive HttpError
  /-- The configuration is not valid. -/
  | invalidConfig (message : String)
  /-- The configuration cannot be read. -/
  | configRead (path message : String)
  /-- The request cannot be made. -/
  | client (message : String)
  /-- The service cannot be reached. -/
  | unreachable (endpoint message : String)
  /-- The service did not answer in time. -/
  | timeout (message : String)
  /-- The service answered with an error. -/
  | status (status : Nat) (message : String)
  /-- The service answered with something else than JSON. -/
  | invalidReply (message preview : String)
  /-- All tries failed. -/
  | retryExhausted (status : Option Nat) (lastError : Option String)
  /-- The exchange could not be started. -/
  | runtime (message : String)
deriving DecidableEq, Repr

namespace HttpError

def message : HttpError → String
  | .invalidConfig m => "invalid HTTP backend config: " ++ m
  | .configRead path m => "failed to read " ++ path ++ ": " ++ m
  | .client m => "HTTP client error: " ++ m
  | .unreachable endpoint m => "cannot reach " ++ endpoint ++ ": " ++ m
  | .timeout m => "request timed out: " ++ m
  | .status code m => "HTTP " ++ displayStatus code ++ " " ++ m
  | .invalidReply m preview => "reply is not valid JSON (" ++ m ++ "): " ++ preview
  | .retryExhausted code? m? =>
    "retries exhausted (status: " ++ ((code?.map toString).getD "n/a") ++ ", last error: " ++
      m?.getD "none" ++ ")"
  | .runtime m => m

def kind : HttpError → BackendErrorKind
  | .unreachable _ _ => .unreachable
  | .timeout _ => .timeout
  | .invalidReply _ _ => .protocol
  | _ => .transport

def toBackendError (e : HttpError) : BackendError := ⟨e.kind, e.message⟩

end HttpError

/-! ## Error responses -/

/-- How many characters of a body a preview shows at most. -/
def previewLength : Nat := 200

/-- The beginning of a body without the white space around it. -/
def preview (body : String) : String :=
  let cs := Text.trimChars body.toList
  if cs.length ≤ previewLength then String.ofList cs
  else String.ofList (cs.take previewLength) ++ "..."

/-- A field of a record of a single optional field, whose value has the given reader. -/
def soleField {α : Type} (name : String) (reader : Reader α) : FieldFormat (Option (Option α)) where
  name := name
  optional := true
  isGiven := Option.isSome
  read _ c := do
    let (x, c) ← readOptional reader c
    .ok (some x, c)

/-- How a record of a single optional field is read. -/
def soleFormat {α : Type} (title name : String) (reader : Reader α) :
    RecordFormat (Option (Option α)) (Option α) where
  title := title
  fields := [soleField name reader]
  strict := false
  empty := none
  complete x := .ok (x.getD none)

/-- Reads an error body: an object with an `error` that has a `message`. -/
def readErrorBody : Reader (Option (Option String)) :=
  readRecord (soleFormat "ErrorPayload" "error"
    (readRecord (soleFormat "ErrorPayloadFields" "message" readString)))

/-- The message that an error body states, unless it is blank. -/
def statedMessage? (body : String) : Option String :=
  match readWhole readErrorBody body with
  | .ok (some (some m)) => if Text.isBlankText m then none else some m
  | _ => none

/-- The message of an error response: the one its body states, else the beginning of the body, else
the reason phrase of its status. -/
def errorMessage (status : Nat) (body : String) : String :=
  match statedMessage? body with
  | some m => m
  | none =>
    if Text.isBlankText body then (reason? status).getD "request failed" else preview body

end Redline.Http
