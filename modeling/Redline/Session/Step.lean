import Redline.Backend.Request
import Redline.ChangeSet.Apply
import Redline.Reply.Classify
import Redline.Session.Basic
import Redline.Turn.Build

/-!
# Steps of a session

A prompt is *submitted*: the session reads the active file and the context files from its surface
and hands a request to a dispatcher, which only says whether the request is on its way. The outcome
is delivered later with the generation of its request. An outcome for any other generation than that
of the request under way is stale and changes nothing.

Every step returns the events that it emitted, in order, with the new session and the new states of
the surface and the dispatcher.
-/

namespace Redline

open Redline.Text

/-- Hands requests to a backend, over states of type `δ`. An error says that the request never left.
-/
structure Dispatcher (δ : Type) where
  /-- Hands over a request under its generation. -/
  dispatch : Generation → Request → δ → Except String Unit × δ

/-- What became of a prompt. -/
inductive SubmitOutcome
  /-- A request is on its way. -/
  | dispatched (generation : Generation)
  /-- Nothing happened: the prompt is blank, or a request is under way. -/
  | ignored
  /-- The prompt was answered with an error. -/
  | rejected
deriving DecidableEq, Repr

/-- What a submission leaves behind. -/
structure Submitted (σ δ : Type) where
  /-- What became of the prompt. -/
  outcome : SubmitOutcome
  /-- The events emitted. -/
  events : List Event
  /-- The session afterwards. -/
  session : Session
  /-- The surface afterwards. -/
  surface : σ
  /-- The dispatcher afterwards. -/
  dispatcher : δ

namespace Session

variable {σ δ : Type}

/-! ## Submitting -/

/-- The active file, if it can be read and may be active, else the reason for the user. -/
def checkActive (options : SessionOptions) :
    Except SurfaceError (Option FileSnapshot) → Except String FileSnapshot
  | .error e => .error ("Could not read the active file: " ++ e.message)
  | .ok none => .error "No active file. Open a file before asking for changes."
  | .ok (some file) =>
    if options.accepts file.path then .ok file
    else .error (file.path ++ " is not a supported file type (accepted: " ++
      ", ".intercalate options.extensions ++ ")")

/-- The session with a turn at its end. -/
def push (s : Session) (turn : Turn) : Session := { s with turns := s.turns ++ [turn] }

/-- The session without its last turn if that is the loading mark. -/
def removeLoading (s : Session) : Session :=
  match s.turns.getLast? with
  | some turn => if turn.isLoading then { s with turns := s.turns.dropLast } else s
  | none => s

def submit (S : Surface σ) (D : Dispatcher δ) (text : String) (s : Session) (surface : σ)
    (dispatcher : δ) : Submitted σ δ :=
  match trimmed? text with
  | none => ⟨.ignored, [], s, surface, dispatcher⟩
  | some prompt =>
    match s.inFlight with
    | some f =>
      let event := Event.info ("Ignoring new message while request " ++ toString f.generation ++
        " is in flight")
      ⟨.ignored, [event], s, surface, dispatcher⟩
    | none =>
      let (answer, surface) := S.active surface
      match checkActive s.options answer with
      | .error message =>
        let s := (s.push (.userInput prompt)).push (.error message)
        ⟨.rejected, [.error message], s, surface, dispatcher⟩
      | .ok active =>
        let generation := s.lastGeneration + 1
        let (snapshot, warnings, surface) := s.context.snapshot S active surface
        let request : Request := ⟨prompt, active, snapshot.files, s.model⟩
        let asked := { s.push (.userInput prompt) with lastGeneration := generation }
        match D.dispatch generation request dispatcher with
        | (.ok (), dispatcher) =>
          let waiting := { asked.push (.loading s.options.loadingHint) with
            inFlight := some ⟨generation, active, snapshot⟩ }
          let event := Event.info ("Dispatched request " ++ toString generation ++ " with model " ++
            s.model)
          ⟨.dispatched generation, warnings ++ [event], waiting, surface, dispatcher⟩
        | (.error message, dispatcher) =>
          let message := "Failed to send request: " ++ message
          let refused := asked.push (.error message)
          ⟨.rejected, warnings ++ [.error message], refused, surface, dispatcher⟩

/-! ## Outcomes -/

/-- The event about a stale outcome. -/
def staleEvent (generation : Generation) : Event :=
  .info ("Discarding stale outcome for request " ++ toString generation)

/-- The request under way if it has the given generation, and the session without it. -/
def takeInFlight? (s : Session) (generation : Generation) : Option (InFlight × Session) :=
  match s.inFlight with
  | some f =>
    if f.generation = generation then some (f, { s with inFlight := none }.removeLoading) else none
  | none => none

/-- Reads the active file of a request again. If that fails, the content sent with the request
stands for it. -/
def readAgain (S : Surface σ) (active : FileSnapshot) (surface : σ) :
    FileSnapshot × List Event × σ :=
  match S.read active.path surface with
  | (.ok content, surface) => (⟨active.path, content⟩, [], surface)
  | (.error e, surface) =>
    let event := Event.warning ("Could not re-read " ++ active.path ++
      ", diffing against the content sent with the request: " ++ e.message)
    (active, [event], surface)

/-- Delivers a reply. The answer is false when it was stale. -/
def onReply (S : Surface σ) (generation : Generation) (value : Json) (s : Session) (surface : σ) :
    Bool × List Event × Session × σ :=
  match s.takeInFlight? generation with
  | none => (false, [staleEvent generation], s, surface)
  | some (f, s) =>
    let (live, events, surface) := readAgain S f.active surface
    let (turn, more) := Turn.ofReply live (f.snapshot.withActive live) (Reply.classify value)
    (true, events ++ more, s.push turn, surface)

/-- Delivers a failure. The answer is false when it was stale. -/
def onFailure (generation : Generation) (message : String) (s : Session) :
    Bool × List Event × Session :=
  match s.takeInFlight? generation with
  | none => (false, [staleEvent generation], s)
  | some (_, s) => (true, [.error message], s.push (.error message))

/-! ## Applying -/

def applyTurn (S : Surface σ) (turn : Nat) (s : Session) (surface : σ) :
    Except ApplyError ApplyReport × List Event × σ :=
  match s.changeSet? turn with
  | none => (.error (.noChangeSet turn), [], surface)
  | some changes => changes.apply S surface

/-- Applies the change set of the latest turn that has one. -/
def applyLatest (S : Surface σ) (s : Session) (surface : σ) :
    Except ApplyError ApplyReport × List Event × σ :=
  match s.latestProposal? with
  | none => (.error .nothingToApply, [], surface)
  | some turn => s.applyTurn S turn surface

end Session

end Redline
