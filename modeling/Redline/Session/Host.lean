import Redline.Backend.Basic
import Redline.Session.Render
import Redline.Session.Step

/-!
# Hosting a session

A host runs a session with a backend. Every dispatched request gets a worker, which asks the backend
and puts the outcome at the end of a queue. A drain takes outcomes from the front of the queue, one
at a time, and delivers them to the session.

A worker that puts its outcome into the empty queue afterwards calls for a wake-up, so that a front
end knows that there is something to drain. Between the two steps of the worker a drain may already
have emptied the queue again.

Workers and drains run beside each other, and beside the front end. Each of their steps is an
operation of its own here, so that every interleaving of them is a sequence of operations.
-/

namespace Redline

/-- A session, its surface and backend, and what is between them. -/
structure Host (σ β : Type) where
  /-- The session. -/
  session : Session
  /-- The surface. -/
  surface : σ
  /-- The backend. -/
  backend : β
  /-- The requests whose workers have not put an outcome into the queue yet, in order. -/
  workers : List (Generation × Request)
  /-- The outcomes waiting for a drain, in order. -/
  queue : List Outcome
  /-- The outcomes that drains have taken and not yet delivered, in order. -/
  taken : List Outcome
  /-- The workers that found the queue empty and still have to call for a wake-up. -/
  alarms : List Generation
  /-- How often a wake-up was called for. -/
  wakes : Nat

namespace Host

variable {σ β : Type}

def start (session : Session) (surface : σ) (backend : β) : Host σ β :=
  ⟨session, surface, backend, [], [], [], [], 0⟩

/-- The dispatcher of a host: every request gets a worker, unless an obstacle keeps it from being
started. -/
def dispatcher (obstacle : Option String) : Dispatcher (List (Generation × Request)) where
  dispatch generation request workers :=
    match obstacle with
    | none => (.ok (), workers ++ [(generation, request)])
    | some cause => (.error ("failed to spawn request worker: " ++ cause), workers)

/-! ## Steps of the front end -/

def submit (S : Surface σ) (text : String) (h : Host σ β) (obstacle : Option String := none) :
    SubmitOutcome × List Event × Host σ β :=
  let r := h.session.submit S (dispatcher obstacle) text h.surface h.workers
  (r.outcome, r.events,
    { h with session := r.session, surface := r.surface, workers := r.dispatcher })

def withSession (h : Host σ β) (session : Session) : Host σ β := { h with session := session }

def clear (h : Host σ β) : Host σ β := h.withSession h.session.clear

/-- Applies the change set of a turn, or of the latest turn that has one. -/
def apply (S : Surface σ) (turn : Option Nat) (h : Host σ β) :
    Except ApplyError ApplyReport × List Event × Host σ β :=
  let (result, events, surface) :=
    match turn with
    | some turn => h.session.applyTurn S turn h.surface
    | none => h.session.applyLatest S h.surface
  (result, events, { h with surface := surface })

/-! ## Steps of workers -/

/-- Puts an outcome at the end of the queue; if the queue was empty, a wake-up is due. -/
def enqueue (h : Host σ β) (outcome : Outcome) : Host σ β :=
  { h with
    queue := h.queue ++ [outcome]
    alarms := if h.queue.isEmpty then h.alarms ++ [outcome.generation] else h.alarms }

/-- The worker at a position asks the backend and puts the outcome into the queue. -/
def finishWorker (B : Backend β) (i : Nat) (h : Host σ β) : Host σ β :=
  match h.workers[i]? with
  | none => h
  | some (generation, request) =>
    let (answer, backend) := B.send request h.backend
    { h with backend := backend, workers := h.workers.eraseIdx i }.enqueue
      ⟨generation, answer.result⟩

/-- The worker of a generation calls for a wake-up, if it still has to. -/
def callWake (generation : Generation) (h : Host σ β) : Host σ β :=
  if generation ∈ h.alarms then
    { h with alarms := h.alarms.erase generation, wakes := h.wakes + 1 }
  else h

/-- Every worker runs to its end, in the order of their requests. -/
def finishWorkers (B : Backend β) (h : Host σ β) : Host σ β :=
  h.workers.foldl (fun h (generation, _) ↦ (h.finishWorker B 0).callWake generation) h

/-! ## Steps of a drain -/

/-- Takes the first outcome from the queue. -/
def take (h : Host σ β) : Host σ β :=
  match h.queue with
  | [] => h
  | outcome :: rest => { h with queue := rest, taken := h.taken ++ [outcome] }

/-- Delivers an outcome to the session. -/
def deliverOutcome (S : Surface σ) (outcome : Outcome) (h : Host σ β) : List Event × Host σ β :=
  match outcome.result with
  | .replied value =>
    let (_, events, session, surface) := h.session.onReply S outcome.generation value h.surface
    (events, { h with session := session, surface := surface })
  | .failed e =>
    let (_, events, session) := h.session.onFailure outcome.generation e.display
    (events, { h with session := session })

/-- Delivers the outcome at a position among those that were taken. -/
def deliver (S : Surface σ) (i : Nat) (h : Host σ β) : List Event × Host σ β :=
  match h.taken[i]? with
  | none => ([], h)
  | some outcome => deliverOutcome S outcome { h with taken := h.taken.eraseIdx i }

/-- Takes the given number of outcomes, and delivers each before the next is taken. -/
def drainMany (S : Surface σ) : Nat → Host σ β → List Event × Host σ β
  | 0, h => ([], h)
  | n + 1, h =>
    let (events, h) := h.take.deliver S h.taken.length
    let (more, h) := drainMany S n h
    (events ++ more, h)

/-- Takes and delivers outcomes until the queue is empty: how many they were, the events, and the
host afterwards. -/
def drain (S : Surface σ) (h : Host σ β) : Nat × List Event × Host σ β :=
  (h.queue.length, drainMany S h.queue.length h)

def render (h : Host σ β) : List String := h.session.render

end Host

end Redline
