import Redline.Context.Store
import Redline.Session.Options
import Redline.Turn.Basic

/-!
# Sessions

A session is a conversation about the files of a surface: its turns, the context files, the model,
and the request under way, if there is one. Requests are numbered from one; the number of a request
is its *generation*, and a generation is never used twice, not even after the conversation has been
cleared.
-/

namespace Redline

open Redline.Text

/-- The number of a request within its session. -/
abbrev Generation := Nat

/-- A request under way and what was read for it. -/
structure InFlight where
  /-- The number of the request. -/
  generation : Generation
  /-- The active file when the request was made. -/
  active : FileSnapshot
  /-- What the request carries. -/
  snapshot : ContextSnapshot
deriving DecidableEq, Repr

/-- A conversation and its state. -/
structure Session where
  /-- The turns so far, in order. -/
  turns : List Turn
  /-- The request under way. -/
  inFlight : Option InFlight
  /-- The number of the latest request, zero before the first. -/
  lastGeneration : Generation
  /-- The context files. -/
  context : ContextStore
  /-- The model to use. -/
  model : String
  /-- How the session was set up. -/
  options : SessionOptions
deriving DecidableEq, Repr

/-- Why a command on a session was refused. -/
inductive SessionError
  /-- The model has no name. -/
  | blankModel
  /-- The path of a context file is blank. -/
  | blankPath
deriving DecidableEq, Repr

def SessionError.message : SessionError → String
  | .blankModel => "model id must not be empty"
  | .blankPath => "context file path must not be empty"

/-- Whether a session waits for an answer. -/
inductive SessionState
  /-- No request is under way. -/
  | idle
  /-- The given request is under way. -/
  | awaiting (generation : Generation)
deriving DecidableEq, Repr

namespace Session

/-- A new session. A blank model becomes the default one. -/
def ofOptions (options : SessionOptions) : Session where
  turns := []
  inFlight := none
  lastGeneration := 0
  context := {}
  model := (trimmed? options.model).getD "default"
  options := options

def isPending (s : Session) : Bool := s.inFlight.isSome

/-- Whether a session waits for an answer, and for which. -/
def state (s : Session) : SessionState :=
  match s.inFlight with
  | some f => .awaiting f.generation
  | none => .idle

/-! ## Commands -/

def setModel (s : Session) (model : String) : Except SessionError Session :=
  match trimmed? model with
  | none => .error .blankModel
  | some model => .ok { s with model := model }

/-- Tracks a context file; the answer is false when it was tracked already. -/
def addContextFile (s : Session) (path : String) : Except SessionError (Bool × Session) :=
  match trimmed? path with
  | none => .error .blankPath
  | some path =>
    let (added, context) := s.context.add path
    .ok (added, { s with context := context })

/-- Stops tracking a context file; the answer says whether it was tracked. -/
def removeContextFile (s : Session) (path : String) : Bool × Session :=
  let (removed, context) := s.context.remove (trim path)
  (removed, { s with context := context })

/-- Empties the conversation. A request under way is forgotten. -/
def clear (s : Session) : Session := { s with turns := [], inFlight := none }

/-! ## Proposals -/

def changeSet? (s : Session) (turn : Nat) : Option ChangeSet := s.turns[turn]?.bind Turn.changeSet?

/-- The index of the last of some turns that proposes changes, the first of them having index
`start`. -/
def lastProposal? (start : Nat) : List Turn → Option Nat
  | [] => none
  | t :: ts =>
    match lastProposal? (start + 1) ts with
    | some i => some i
    | none => if t.changeSet?.isSome then some start else none

/-- The index of the latest turn that proposes changes. -/
def latestProposal? (s : Session) : Option Nat := lastProposal? 0 s.turns

end Session

end Redline
