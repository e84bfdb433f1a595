import Redline.Duration
import Redline.Http.Endpoint
import Redline.Http.Error
import Redline.Http.Retry

/-!
# Configuration of the HTTP backend

The configuration is a JSON object with `endpoint` and `models`, and optionally `timeout_sec` and
`api_key`. Texts are cut free of white space; the endpoint must not be blank, one model must have a
name, and a time limit must be positive. A blank key counts as none.
-/

namespace Redline.Http

open Redline.Json Redline.Text

/-- How the HTTP backend is set up. -/
structure HttpConfig where
  /-- The address of the service or of its route. -/
  endpoint : String
  /-- The models it offers; the first is the default. -/
  models : List String
  /-- The key to send with a request. -/
  apiKey : Option String
  /-- The time limit of a request. -/
  timeout : Option Duration
  /-- The pause before the first retry. -/
  retryDelay : Duration
deriving DecidableEq, Repr

/-- The fields of a configuration read so far. An optional field may be given as `null`. -/
structure PartialConfig where
  /-- The endpoint. -/
  endpoint : Option String := none
  /-- The models. -/
  models : Option (List String) := none
  /-- The time limit in seconds. -/
  timeout : Option (Option Nat) := none
  /-- The key. -/
  apiKey : Option (Option String) := none

/-- A configuration as written. -/
structure ConfigFile where
  /-- The endpoint. -/
  endpoint : String
  /-- The models. -/
  models : List String
  /-- The time limit in seconds. -/
  timeout : Option Nat
  /-- The key. -/
  apiKey : Option String

def ConfigFile.format : RecordFormat PartialConfig ConfigFile where
  title := "HttpConfigFile"
  strict := true
  empty := {}
  fields := [
    ⟨"endpoint", false, fun g ↦ g.endpoint.isSome, fun g c ↦ do
      let (x, c) ← readString c
      .ok ({ g with endpoint := some x }, c)⟩,
    ⟨"models", false, fun g ↦ g.models.isSome, fun g c ↦ do
      let (x, c) ← readList readString c
      .ok ({ g with models := some x }, c)⟩,
    ⟨"timeout_sec", true, fun g ↦ g.timeout.isSome, fun g c ↦ do
      let (x, c) ← readOptional readWord64 c
      .ok ({ g with timeout := some x }, c)⟩,
    ⟨"api_key", true, fun g ↦ g.apiKey.isSome, fun g c ↦ do
      let (x, c) ← readOptional readString c
      .ok ({ g with apiKey := some x }, c)⟩]
  complete g := do
    .ok ⟨← require "endpoint" g.endpoint, ← require "models" g.models, g.timeout.getD none,
      g.apiKey.getD none⟩

namespace HttpConfig

/-- The configuration of a file, if its values are acceptable. -/
def ofFile (file : ConfigFile) : Except HttpError HttpConfig :=
  let models := file.models.filterMap trimmed?
  match trimmed? file.endpoint with
  | none => .error (.invalidConfig "`endpoint` must not be empty")
  | some endpoint =>
    if models.isEmpty then .error (.invalidConfig "`models` must list at least one model id")
    else if file.timeout = some 0 then
      .error (.invalidConfig "`timeout_sec` must be greater than zero")
    else
      .ok ⟨endpoint, models, file.apiKey.bind trimmed?, file.timeout.map .ofSecs,
        defaultRetryDelay⟩

def ofText (s : String) : Except HttpError HttpConfig :=
  match readWhole (readRecord ConfigFile.format) s with
  | .error e => .error (.invalidConfig e.message)
  | .ok file => ofFile file

/-- A configuration with the given endpoint and key and no models. -/
def ofEndpoint (endpoint : String) (apiKey : Option String) : HttpConfig :=
  ⟨endpoint, [], apiKey, none, defaultRetryDelay⟩

def profile (config : HttpConfig) : BackendProfile := .ofModels "http" "default" config.models

/-- The address to which the backend with a configuration sends its requests. -/
def address (config : HttpConfig) : String := normalizeEndpoint config.endpoint

end HttpConfig

end Redline.Http
