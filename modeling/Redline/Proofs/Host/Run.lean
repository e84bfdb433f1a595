import Redline.Proofs.Session.Run
import Redline.Session.Host

/-!
# Runs of a host

A *run* is any sequence of steps of the front end, of workers and of drains, in any order. Each step
brings its own surface or backend, which may be anything and answer anything: a worker may get a
reply or a failure, or its backend may break down.

What the outside sees of a run are its *notes*: which requests got a worker, which outcomes were put
into the queue, who called for a wake-up, and which outcomes were delivered.

All that a step can do to a host is said once, by `Effect`. What holds in every run is derived from
that.
-/

namespace Redline

/-! ## Notes -/

/-- What the outside sees of a step. -/
inductive Note
  /-- A request got a worker. -/
  | dispatched (generation : Generation)
  /-- A worker put an outcome into the queue. -/
  | enqueued (outcome : Outcome)
  /-- A worker called for a wake-up. -/
  | woken (generation : Generation)
  /-- A drain delivered an outcome. -/
  | delivered (outcome : Outcome)

def SubmitOutcome.notes : SubmitOutcome → List Note
  | .dispatched generation => [.dispatched generation]
  | .ignored | .rejected => []

/-! ## Steps -/

/-- A step of a host. -/
inductive Move (σ β : Type)
  /-- A prompt is submitted. An obstacle would keep a worker from being started. -/
  | submit (S : Surface σ) (text : String) (obstacle : Option String)
  | clear
  | setModel (model : String)
  | addContextFile (path : String)
  | removeContextFile (path : String)
  /-- The change set of a turn is applied, or of the latest turn that has one. -/
  | apply (S : Surface σ) (turn : Option Nat)
  /-- The worker at a position gets its answer and puts the outcome into the queue. -/
  | finishWorker (B : Backend β) (i : Nat)
  /-- The worker of a generation calls for a wake-up, if it still has to. -/
  | callWake (generation : Generation)
  | take
  /-- A drain delivers the outcome at a position among those that were taken. -/
  | deliver (S : Surface σ) (i : Nat)

def Move.isSubmit {σ β : Type} : Move σ β → Bool
  | .submit .. => true
  | _ => false

def Move.isDrain {σ β : Type} : Move σ β → Bool
  | .take | .deliver .. => true
  | _ => false

namespace Host

variable {σ β : Type}

/-- The host after a step, and the notes of the step. A command that is refused leaves the host as
it is, and so does a worker or a drain that has nothing to do. -/
def step (h : Host σ β) : Move σ β → Host σ β × List Note
  | .submit S text obstacle =>
    let (outcome, _, next) := h.submit S text obstacle
    (next, outcome.notes)
  | .clear => (h.clear, [])
  | .setModel model =>
    match h.session.setModel model with
    | .ok session => (h.withSession session, [])
    | .error _ => (h, [])
  | .addContextFile path =>
    match h.session.addContextFile path with
    | .ok (_, session) => (h.withSession session, [])
    | .error _ => (h, [])
  | .removeContextFile path => (h.withSession (h.session.removeContextFile path).2, [])
  | .apply S turn => ((h.apply S turn).2.2, [])
  | .finishWorker B i =>
    let next := h.finishWorker B i
    (next, (next.queue.drop h.queue.length).map .enqueued)
  | .callWake generation =>
    (h.callWake generation, if generation ∈ h.alarms then [.woken generation] else [])
  | .take => (h.take, [])
  | .deliver S i => ((h.deliver S i).2, h.taken[i]?.toList.map .delivered)

def run (h : Host σ β) : List (Move σ β) → Host σ β × List Note
  | [] => (h, [])
  | move :: moves =>
    let (h, notes) := h.step move
    let (h, more) := h.run moves
    (h, notes ++ more)

theorem run_append (h : Host σ β) (front back : List (Move σ β)) :
    h.run (front ++ back) =
      (((h.run front).1.run back).1, (h.run front).2 ++ ((h.run front).1.run back).2) := by
  induction front generalizing h with
  | nil => rfl
  | cons move front ih => simp only [List.cons_append, run, ih, List.append_assoc]

/-! ## What a step does -/

/-- What a step can do to a host, with its notes. -/
inductive Effect (h : Host σ β) : Host σ β → List Note → Prop
  /-- The session changes, but neither the request under way nor the number of the latest. -/
  | kept (session : Session) (surface : σ) : session.inFlight = h.session.inFlight →
    session.lastGeneration = h.session.lastGeneration →
    Effect h { h with session := session, surface := surface } []
  | cleared : Effect h h.clear []
  /-- A request gets a number, but no worker. -/
  | refused (session : Session) (surface : σ) : h.session.inFlight = none →
    session.inFlight = none → session.lastGeneration = h.session.lastGeneration + 1 →
    Effect h { h with session := session, surface := surface } []
  /-- A request gets a number and a worker, and is under way. -/
  | dispatched (session : Session) (surface : σ) (request : Request) (f : InFlight) :
    h.session.inFlight = none → session.inFlight = some f →
    f.generation = h.session.lastGeneration + 1 →
    session.lastGeneration = h.session.lastGeneration + 1 →
    Effect h { h with
      session := session
      surface := surface
      workers := h.workers ++ [(h.session.lastGeneration + 1, request)] }
      [.dispatched (h.session.lastGeneration + 1)]
  /-- A worker puts its outcome into the queue. -/
  | enqueued (i : Nat) (generation : Generation) (request : Request) (backend : β)
    (result : OutcomeResult) : h.workers[i]? = some (generation, request) →
    Effect h ({ h with backend := backend, workers := h.workers.eraseIdx i }.enqueue
      ⟨generation, result⟩) [.enqueued ⟨generation, result⟩]
  | woken (generation : Generation) : generation ∈ h.alarms →
    Effect h { h with alarms := h.alarms.erase generation, wakes := h.wakes + 1 }
      [.woken generation]
  | taken (outcome : Outcome) (rest : List Outcome) : h.queue = outcome :: rest →
    Effect h { h with queue := rest, taken := h.taken ++ [outcome] } []
  /-- A drain delivers an outcome. After that its request is not under way. -/
  | delivered (i : Nat) (outcome : Outcome) (session : Session) (surface : σ) :
    h.taken[i]? = some outcome →
    (∀ f, session.inFlight = some f →
      h.session.inFlight = some f ∧ f.generation ≠ outcome.generation) →
    session.lastGeneration = h.session.lastGeneration →
    Effect h { h with session := session, surface := surface, taken := h.taken.eraseIdx i }
      [.delivered outcome]

variable {h h' : Host σ β} {notes : List Note}

theorem Effect.refl (h : Host σ β) : Effect h h [] := .kept h.session h.surface rfl rfl

theorem submit_effect (S : Surface σ) (text : String) (obstacle : Option String)
    (h : Host σ β) :
    let r := h.step (.submit S text obstacle)
    Effect h r.1 r.2 := by
  simp only [step, submit, Session.submit]
  cases Text.trimmed? text with
  | none => exact .refl h
  | some prompt =>
    cases hidle : h.session.inFlight with
    | some f => exact .refl h
    | none =>
      dsimp only
      cases Session.checkActive h.session.options (S.active h.surface).1 with
      | error message => exact .kept _ _ rfl rfl
      | ok active =>
        cases obstacle with
        | some cause => exact .refused _ _ hidle hidle rfl
        | none => exact .dispatched _ _ _ ⟨_, active, _⟩ hidle rfl rfl rfl

/-- An outcome that a session has been given is that of no request under way. -/
theorem inFlight_of_delivered {s s' : Session} {generation : Generation} {taken : Bool}
    (heffect : Session.Effect s s' [.delivered generation taken]) :
    (∀ f, s'.inFlight = some f → s.inFlight = some f ∧ f.generation ≠ generation) ∧
      s'.lastGeneration = s.lastGeneration := by
  cases heffect with
  | taken f turn hflight houtcome =>
    refine ⟨fun g hg ↦ ?_, Session.lastGeneration_answered s turn⟩
    rw [Session.inFlight_answered] at hg
    exact absurd hg nofun
  | stale generation hstale => exact ⟨fun f hf ↦ ⟨hf, hstale f hf⟩, rfl⟩

theorem deliverOutcome_eq (S : Surface σ) (outcome : Outcome) (h : Host σ β) :
    ∃ session surface taken,
      (deliverOutcome S outcome h).2 = { h with session := session, surface := surface } ∧
        Session.Effect h.session session [.delivered outcome.generation taken] := by
  rw [deliverOutcome]
  cases outcome.result with
  | replied value => exact ⟨_, _, _, rfl, Session.onReply_effect S _ value h.session h.surface⟩
  | failed e => exact ⟨_, h.surface, _, rfl, Session.onFailure_effect _ e.display h.session⟩

theorem deliver_effect (S : Surface σ) (i : Nat) (h : Host σ β) :
    Effect h (h.deliver S i).2 (h.taken[i]?.toList.map .delivered) := by
  cases htaken : h.taken[i]? with
  | none =>
    simp only [deliver, htaken]
    exact .refl h
  | some outcome =>
    obtain ⟨session, surface, taken, heq, heffect⟩ :=
      deliverOutcome_eq S outcome { h with taken := h.taken.eraseIdx i }
    obtain ⟨hflight, hgeneration⟩ := inFlight_of_delivered heffect
    simp only [deliver, htaken, heq]
    exact .delivered i outcome session surface htaken hflight hgeneration

theorem finishWorker_effect (B : Backend β) (i : Nat) (h : Host σ β) :
    let r := h.step (.finishWorker B i)
    Effect h r.1 r.2 := by
  cases hworker : h.workers[i]? with
  | none =>
    simp only [step, finishWorker, hworker, List.drop_length, List.map_nil]
    exact .refl h
  | some worker =>
    obtain ⟨generation, request⟩ := worker
    simp only [step, finishWorker, hworker, enqueue, List.drop_left, List.map_cons, List.map_nil]
    exact .enqueued i generation request _ _ hworker

/-- **Every step has one of the effects.** -/
theorem step_effect (h : Host σ β) (move : Move σ β) :
    Effect h (h.step move).1 (h.step move).2 := by
  cases move with
  | submit S text obstacle => exact submit_effect S text obstacle h
  | clear => exact .cleared
  | setModel model =>
    rw [step, Session.setModel]
    cases Text.trimmed? model with
    | none => exact .refl h
    | some model => exact .kept _ _ rfl rfl
  | addContextFile path =>
    rw [step, Session.addContextFile]
    cases Text.trimmed? path with
    | none => exact .refl h
    | some path => exact .kept _ _ rfl rfl
  | removeContextFile path => exact .kept _ _ rfl rfl
  | apply S turn => exact .kept h.session _ rfl rfl
  | finishWorker B i => exact finishWorker_effect B i h
  | callWake generation =>
    rw [step, callWake]
    by_cases halarm : generation ∈ h.alarms
    · rw [if_pos halarm, if_pos halarm]
      exact .woken generation halarm
    · rw [if_neg halarm, if_neg halarm]
      exact .refl h
  | take =>
    rw [step, take]
    cases hqueue : h.queue with
    | nil => exact .refl h
    | cons outcome rest => exact .taken outcome rest hqueue
  | deliver S i => exact deliver_effect S i h

/-- What every step keeps, from a host and the notes that led to it on, a whole run keeps. -/
theorem run_induction {motive : Host σ β → List Note → Prop} (before : List Note)
    (moves : List (Move σ β)) (hstart : motive h before)
    (hstep : ∀ h before h' notes, motive h before → Effect h h' notes →
      motive h' (before ++ notes)) :
    motive (h.run moves).1 (before ++ (h.run moves).2) := by
  induction moves generalizing h before with
  | nil => rwa [run, List.append_nil]
  | cons move moves ih =>
    have hnext := ih _ (hstep _ _ _ _ hstart (h.step_effect move))
    rwa [List.append_assoc] at hnext

/-! ## The session of a host -/

/-- The calls on the session that a step makes. -/
def calls (h : Host σ β) : Move σ β → List Action
  | .submit S text obstacle => [.submit S (dispatcher obstacle) text h.surface h.workers]
  | .clear => [.clear]
  | .setModel model => [.setModel model]
  | .addContextFile path => [.addContextFile path]
  | .removeContextFile path => [.removeContextFile path]
  | .apply S turn => [.apply S turn h.surface]
  | .finishWorker _ _ | .callWake _ | .take => []
  | .deliver S i =>
    match h.taken[i]? with
    | none => []
    | some ⟨generation, .replied value⟩ => [.reply S generation value h.surface]
    | some ⟨generation, .failed e⟩ => [.failure generation e.display]

theorem session_step (h : Host σ β) (move : Move σ β) :
    (h.step move).1.session = (h.session.run (h.calls move)).1 := by
  cases move with
  | setModel model =>
    simp only [step, calls, Session.run, Session.perform]
    cases h.session.setModel model <;> rfl
  | addContextFile path =>
    simp only [step, calls, Session.run, Session.perform]
    cases h.session.addContextFile path <;> rfl
  | finishWorker B i =>
    simp only [step, finishWorker]
    split <;> rfl
  | callWake generation =>
    simp only [step, callWake]
    split <;> rfl
  | take =>
    simp only [step, take]
    split <;> rfl
  | deliver S i =>
    rw [calls, step, deliver]
    rcases h.taken[i]? with _ | ⟨generation, _ | _⟩ <;> rfl
  | _ => rfl

theorem countP_calls (h : Host σ β) (move : Move σ β) :
    (h.calls move).countP Action.isSubmit = if move.isSubmit then 1 else 0 := by
  cases move with
  | deliver S i =>
    rw [calls]
    rcases h.taken[i]? with _ | ⟨generation, _ | _⟩ <;> rfl
  | _ => rfl

/-- The calls on the session that a run makes. -/
def runCalls (h : Host σ β) : List (Move σ β) → List Action
  | [] => []
  | move :: moves => h.calls move ++ (h.step move).1.runCalls moves

/-- **The session of a host is in a run of its own.** -/
theorem session_run (h : Host σ β) (moves : List (Move σ β)) :
    (h.run moves).1.session = (h.session.run (h.runCalls moves)).1 := by
  induction moves generalizing h with
  | nil => rfl
  | cons move moves ih =>
    rw [runCalls, Session.run_append, ← session_step]
    exact ih (h.step move).1

theorem countP_runCalls (h : Host σ β) (moves : List (Move σ β)) :
    (h.runCalls moves).countP Action.isSubmit = moves.countP Move.isSubmit := by
  induction moves generalizing h with
  | nil => rfl
  | cons move moves ih =>
    rw [runCalls, List.countP_append, countP_calls, ih, List.countP_cons, Nat.add_comm]

end Host

end Redline
