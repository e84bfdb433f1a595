import Redline.Backend.Request
import Redline.Text.Blank

/-!
# Backends

A backend answers one request with a JSON value or an error. How it does that, and whether it
changes on the way, is its own; it has states of type `β`. It may also break down while it answers.
-/

namespace Redline

/-! ## Errors -/

/-- How a request failed. -/
inductive BackendErrorKind
  /-- The backend could not be reached. -/
  | unreachable
  /-- The exchange with the backend failed. -/
  | transport
  /-- A backend's program could not be started, or failed. -/
  | process
  /-- The backend did not answer in time. -/
  | timeout
  /-- The backend answered with something else than JSON. -/
  | protocol
deriving DecidableEq, Repr

def BackendErrorKind.label : BackendErrorKind → String
  | .unreachable => "backend unreachable"
  | .transport => "transport failure"
  | .process => "backend process failure"
  | .timeout => "backend timed out"
  | .protocol => "malformed backend reply"

/-- A failed request. -/
structure BackendError where
  /-- How it failed. -/
  kind : BackendErrorKind
  /-- Why it failed. -/
  message : String
deriving DecidableEq, Repr

def BackendError.display (e : BackendError) : String := e.kind.label ++ ": " ++ e.message

/-! ## Backends -/

/-- What a backend is called and which models it offers. -/
structure BackendProfile where
  /-- The name of the backend. -/
  id : String
  /-- The model it uses unless told otherwise. -/
  defaultModel : String
  /-- The models it offers. -/
  models : List String
deriving DecidableEq, Repr

/-- The profile of a backend that offers one model. -/
def BackendProfile.ofModel (id model : String) : BackendProfile := ⟨id, model, [model]⟩

/-- The names of models without white space around them; blank ones are dropped, and when none is
left the fallback is the only one. -/
def cleanModels (fallback : String) (models : List String) : List String :=
  match models.filterMap Text.trimmed? with
  | [] => [fallback]
  | models => models

/-- The profile of a backend that offers the given models, the first unless told otherwise. -/
def BackendProfile.ofModels (id fallback : String) (models : List String) : BackendProfile :=
  let models := cleanModels fallback models
  ⟨id, models.headD fallback, models⟩

/-- What a backend does with a request. -/
inductive Answer
  /-- It replies. -/
  | reply (value : Json)
  /-- It fails. -/
  | failure (error : BackendError)
  /-- It breaks down. -/
  | breakdown
deriving Inhabited

/-- A way to answer requests, over states of type `β`. -/
structure Backend (β : Type) where
  /-- The profile. -/
  profile : β → BackendProfile
  /-- Answers a request. -/
  send : Request → β → Answer × β

/-! ## Outcomes -/

/-- How a request ended. -/
inductive OutcomeResult
  | replied (value : Json)
  | failed (error : BackendError)
deriving Inhabited

/-- The outcome of a request. -/
structure Outcome where
  /-- The request's generation. -/
  generation : Nat
  /-- How it ended. -/
  result : OutcomeResult
deriving Inhabited

/-- The result of an answer: a breakdown is a failure of the exchange. -/
def Answer.result : Answer → OutcomeResult
  | .reply value => .replied value
  | .failure e => .failed e
  | .breakdown => .failed ⟨.transport, "backend panicked while handling the request"⟩

end Redline
