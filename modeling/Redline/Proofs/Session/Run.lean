import Redline.Proofs.Session.Submission

/-!
# Runs of a session

A *run* is any sequence of calls on a session. Each call brings its own surface and dispatcher,
which may be anything and answer anything, so nothing is assumed about what stands behind them.

What the outside sees of a run are its *records*: which generations were handed to a dispatcher,
which deliveries were taken, and when the conversation was cleared. The records of a submission are
those of its dispatcher, by which it is watched.

All that a call can do to a session is said once, by `Effect`. What holds in every run is derived
from that.
-/

namespace Redline

open Redline.Text

/-! ## Records -/

/-- What the outside sees of a call. -/
inductive Record
  /-- A request of a generation was handed to a dispatcher, which accepted or refused it. -/
  | asked (generation : Generation) (accepted : Bool)
  /-- An outcome was delivered for a generation, and it was taken or was stale. -/
  | delivered (generation : Generation) (taken : Bool)
  | cleared
deriving DecidableEq, Repr

namespace Dispatcher

variable {δ : Type}

/-- A dispatcher that is watched: its states hold what it was handed so far. -/
def watched (D : Dispatcher δ) : Dispatcher (δ × List Record) where
  dispatch generation request state :=
    let (answer, dispatcher) := D.dispatch generation request state.1
    (answer, dispatcher, state.2 ++ [.asked generation answer.isOk])

/-- What is handed over first is all that has been seen then. -/
theorem records_of_watched {D : Dispatcher δ} {generation : Generation} {request : Request}
    {dispatcher : δ} {answer : Except String Unit} {state : δ × List Record}
    (h : D.watched.dispatch generation request (dispatcher, []) = (answer, state)) :
    state.2 = [.asked generation answer.isOk] := by
  obtain ⟨rfl, rfl⟩ := Prod.mk.inj h
  rfl

end Dispatcher

namespace Session

variable {σ δ : Type}

theorem submit_watched (S : Surface σ) (D : Dispatcher δ) (text : String) (s : Session)
    (surface : σ) (dispatcher : δ) (records : List Record) :
    let plain := s.submit S D text surface dispatcher
    let watched := s.submit S D.watched text surface (dispatcher, records)
    watched.outcome = plain.outcome ∧ watched.events = plain.events ∧
      watched.session = plain.session ∧ watched.surface = plain.surface ∧
        watched.dispatcher.1 = plain.dispatcher := by
  have hplain := submit_view D D.watched Prod.fst (fun _ _ _ ↦ rfl) S text s surface
    (dispatcher, records)
  simp only [hplain, and_self]

end Session

/-! ## Calls -/

/-- A call on a session. -/
inductive Action : Type 1
  | submit {σ δ : Type} (S : Surface σ) (D : Dispatcher δ) (text : String) (surface : σ)
    (dispatcher : δ)
  | reply {σ : Type} (S : Surface σ) (generation : Generation) (value : Json) (surface : σ)
  | failure (generation : Generation) (message : String)
  | clear
  | setModel (model : String)
  | addContextFile (path : String)
  | removeContextFile (path : String)
  /-- The change set of a turn is applied, or of the latest turn that has one. -/
  | apply {σ : Type} (S : Surface σ) (turn : Option Nat) (surface : σ)

def Action.isSubmit : Action → Bool
  | .submit .. => true
  | _ => false

namespace Session

/-- The session after a call, and the records of the call. Applying only reads the session, and a
command that is refused leaves it as it is. -/
def perform (s : Session) : Action → Session × List Record
  | .submit S D text surface dispatcher =>
    ((s.submit S D text surface dispatcher).session,
      (s.submit S D.watched text surface (dispatcher, [])).dispatcher.2)
  | .reply S generation value surface =>
    let (taken, _, s, _) := s.onReply S generation value surface
    (s, [.delivered generation taken])
  | .failure generation message =>
    let (taken, _, s) := s.onFailure generation message
    (s, [.delivered generation taken])
  | .clear => (s.clear, [.cleared])
  | .setModel model =>
    match s.setModel model with
    | .ok s => (s, [])
    | .error _ => (s, [])
  | .addContextFile path =>
    match s.addContextFile path with
    | .ok (_, s) => (s, [])
    | .error _ => (s, [])
  | .removeContextFile path => ((s.removeContextFile path).2, [])
  | .apply _ _ _ => (s, [])

def run (s : Session) : List Action → Session × List Record
  | [] => (s, [])
  | action :: actions =>
    let (s, records) := s.perform action
    let (s, more) := s.run actions
    (s, records ++ more)

end Session

/-! ## What a call does -/

namespace Turn

/-- A turn that answers a prompt. -/
def IsOutcome (t : Turn) : Prop := (∀ text, t ≠ .userInput text) ∧ t.isLoading = false

theorem isOutcome_error (message : String) : (Turn.error message).IsOutcome := ⟨nofun, rfl⟩

theorem isOutcome_ofReply (active : FileSnapshot) (snapshot : ContextSnapshot) (reply : Reply) :
    (ofReply active snapshot reply).1.IsOutcome := by
  cases reply with
  | multiFileChange why files =>
    simp only [ofReply]
    split
    · exact ⟨nofun, rfl⟩
    · exact ⟨nofun, rfl⟩
  | _ => exact ⟨nofun, rfl⟩

end Turn

namespace Session

variable {σ δ : Type}

/-- The session that has taken the outcome of the request under way. -/
def answered (s : Session) (turn : Turn) : Session :=
  { s with inFlight := none }.removeLoading.push turn

theorem removeLoading_eq (s : Session) : ∃ turns, s.removeLoading = { s with turns := turns } := by
  rw [removeLoading]
  split
  · split
    · exact ⟨_, rfl⟩
    · exact ⟨_, rfl⟩
  · exact ⟨_, rfl⟩

theorem turns_removeLoading (s : Session) :
    ∃ kept marks, s.turns = kept ++ marks ∧ (∀ t ∈ marks, t.isLoading = true) ∧
      s.removeLoading.turns = kept := by
  rw [removeLoading]
  cases hlast : s.turns.getLast? with
  | none => exact ⟨s.turns, [], (List.append_nil _).symm, nofun, rfl⟩
  | some turn =>
    obtain ⟨front, hturns⟩ := List.getLast?_eq_some_iff.mp hlast
    cases hloading : turn.isLoading with
    | false => exact ⟨s.turns, [], (List.append_nil _).symm, nofun, by simp [hloading]⟩
    | true =>
      refine ⟨front, [turn], hturns, List.forall_mem_singleton.mpr hloading, ?_⟩
      simp [hloading, hturns]

theorem removeLoading_of_turns {s : Session} {front : List Turn} {hint : String}
    (h : s.turns = front ++ [.loading hint]) : s.removeLoading = { s with turns := front } := by
  have hlast : s.turns.getLast? = some (.loading hint) := by
    rw [h, List.getLast?_concat]
  rw [removeLoading, hlast]
  simp only [Turn.isLoading, if_true, h, List.dropLast_concat]

@[simp] theorem inFlight_answered (s : Session) (turn : Turn) :
    (s.answered turn).inFlight = none := by
  obtain ⟨turns, hturns⟩ := removeLoading_eq { s with inFlight := none }
  rw [answered, hturns, inFlight_push]

@[simp] theorem lastGeneration_answered (s : Session) (turn : Turn) :
    (s.answered turn).lastGeneration = s.lastGeneration := by
  obtain ⟨turns, hturns⟩ := removeLoading_eq { s with inFlight := none }
  rw [answered, hturns, lastGeneration_push]

theorem turns_answered {s : Session} {front : List Turn} {hint : String} (turn : Turn)
    (h : s.turns = front ++ [.loading hint]) : (s.answered turn).turns = front ++ [turn] := by
  have hremoved : { s with inFlight := none }.removeLoading
      = { s with inFlight := none, turns := front } := removeLoading_of_turns h
  rw [answered, hremoved, turns_push]

section Deliveries

variable {s : Session} {f : InFlight} {generation : Generation}

theorem inFlight_or_stale (s : Session) (generation : Generation) :
    (∃ f, s.inFlight = some f ∧ f.generation = generation) ∨
      ∀ f, s.inFlight = some f → f.generation ≠ generation := by
  cases hflight : s.inFlight with
  | none => exact .inr nofun
  | some f =>
    by_cases hgeneration : f.generation = generation
    · exact .inl ⟨f, rfl, hgeneration⟩
    · refine .inr fun g hg ↦ ?_
      obtain rfl := Option.some.inj hg
      exact hgeneration

theorem takeInFlight?_of_inFlight (h : s.inFlight = some f) :
    s.takeInFlight? f.generation = some (f, { s with inFlight := none }.removeLoading) := by
  simp only [takeInFlight?, h, if_true]

theorem takeInFlight?_of_stale (h : ∀ f, s.inFlight = some f → f.generation ≠ generation) :
    s.takeInFlight? generation = none := by
  cases hflight : s.inFlight with
  | none => simp only [takeInFlight?, hflight]
  | some f => simp only [takeInFlight?, hflight, if_neg (h f hflight)]

/-- The reply to the request under way is compared with what is kept of that request, once its
active file is read again. -/
theorem onReply_of_inFlight {S : Surface σ} {live : FileSnapshot} {reread : List Event}
    {surface after : σ} (hflight : s.inFlight = some f)
    (hread : readAgain S f.active surface = (live, reread, after)) (value : Json) :
    let r := Turn.ofReply live (f.snapshot.withActive live) (Reply.classify value)
    s.onReply S f.generation value surface = (true, reread ++ r.2, s.answered r.1, after) := by
  rw [onReply, takeInFlight?_of_inFlight hflight]
  simp only [hread]
  rfl

theorem onReply_of_stale (h : ∀ f, s.inFlight = some f → f.generation ≠ generation)
    (S : Surface σ) (value : Json) (surface : σ) :
    s.onReply S generation value surface = (false, [staleEvent generation], s, surface) := by
  simp only [onReply, takeInFlight?_of_stale h]

theorem onFailure_of_inFlight (h : s.inFlight = some f) (message : String) :
    s.onFailure f.generation message =
      (true, [.error message], s.answered (.error message)) := by
  rw [onFailure, takeInFlight?_of_inFlight h]
  rfl

theorem onFailure_of_stale (h : ∀ f, s.inFlight = some f → f.generation ≠ generation)
    (message : String) :
    s.onFailure generation message = (false, [staleEvent generation], s) := by
  simp only [onFailure, takeInFlight?_of_stale h]

end Deliveries

/-- What a call can do to a session, with its records. -/
inductive Effect (s : Session) : Session → List Record → Prop
  /-- The conversation and the request under way stay as they are. -/
  | kept {s' : Session} : s'.turns = s.turns → s'.inFlight = s.inFlight →
    s'.lastGeneration = s.lastGeneration → Effect s s' []
  /-- A prompt is answered at once, without a request. -/
  | unasked (prompt message : String) : s.inFlight = none →
    Effect s ((s.push (.userInput prompt)).push (.error message)) []
  /-- A request is refused. -/
  | refused (prompt message : String) : s.inFlight = none →
    Effect s ((s.asking prompt).push (.error message)) [.asked (s.lastGeneration + 1) false]
  /-- A request is accepted. -/
  | accepted (prompt hint : String) (active : FileSnapshot) (snapshot : ContextSnapshot) :
    s.inFlight = none →
    Effect s ((s.asking prompt).waiting hint active snapshot) [.asked (s.lastGeneration + 1) true]
  /-- An outcome is taken. -/
  | taken (f : InFlight) (turn : Turn) : s.inFlight = some f → turn.IsOutcome →
    Effect s (s.answered turn) [.delivered f.generation true]
  | stale (generation : Generation) : (∀ f, s.inFlight = some f → f.generation ≠ generation) →
    Effect s s [.delivered generation false]
  | cleared : Effect s s.clear [.cleared]

theorem submit_effect (S : Surface σ) (D : Dispatcher δ) (text : String) (s : Session)
    (surface : σ) (dispatcher : δ) :
    let r := s.submit S D.watched text surface (dispatcher, [])
    Effect s r.session r.dispatcher.2 := by
  intro r
  have hend : Submission S D.watched text s surface (dispatcher, []) r := submission ..
  generalize r = r at hend ⊢
  cases hend with
  | blank | busy => exact .kept rfl rfl rfl
  | unasked message hblank hidle => exact .unasked _ message hidle
  | refused active snapshot warnings surface' message d hblank hidle hactive hsnapshot hanswer =>
    rw [Dispatcher.records_of_watched hanswer]
    exact .refused _ _ hidle
  | accepted active snapshot warnings surface' d hblank hidle hactive hsnapshot hanswer =>
    rw [Dispatcher.records_of_watched hanswer]
    exact .accepted _ _ active snapshot hidle

theorem onReply_effect (S : Surface σ) (generation : Generation) (value : Json) (s : Session)
    (surface : σ) :
    let r := s.onReply S generation value surface
    Effect s r.2.2.1 [.delivered generation r.1] := by
  rcases s.inFlight_or_stale generation with ⟨f, hflight, rfl⟩ | hstale
  · rcases hread : readAgain S f.active surface with ⟨live, reread, after⟩
    rw [onReply_of_inFlight hflight hread]
    exact .taken f _ hflight (Turn.isOutcome_ofReply _ _ _)
  · rw [onReply_of_stale hstale]
    exact .stale generation hstale

theorem onFailure_effect (generation : Generation) (message : String) (s : Session) :
    let r := s.onFailure generation message
    Effect s r.2.2 [.delivered generation r.1] := by
  rcases s.inFlight_or_stale generation with ⟨f, hflight, rfl⟩ | hstale
  · rw [onFailure_of_inFlight hflight]
    exact .taken f _ hflight (Turn.isOutcome_error message)
  · rw [onFailure_of_stale hstale]
    exact .stale generation hstale

/-- **Every call has one of the effects.** -/
theorem perform_effect (s : Session) (action : Action) :
    Effect s (s.perform action).1 (s.perform action).2 := by
  cases action with
  | submit S D text surface dispatcher =>
    -- The session is that of the dispatcher itself, the records are those of the watched one.
    obtain ⟨-, -, hsession, -, -⟩ := submit_watched S D text s surface dispatcher []
    have heffect := submit_effect S D text s surface dispatcher
    simp only [hsession] at heffect
    exact heffect
  | reply S generation value surface => exact onReply_effect S generation value s surface
  | failure generation message => exact onFailure_effect generation message s
  | clear => exact .cleared
  | setModel model =>
    rw [perform, setModel]
    cases trimmed? model <;> exact .kept rfl rfl rfl
  | addContextFile path =>
    rw [perform, addContextFile]
    cases trimmed? path <;> exact .kept rfl rfl rfl
  | removeContextFile path => exact .kept rfl rfl rfl
  | apply S turn surface => exact .kept rfl rfl rfl

theorem run_append (s : Session) (actions more : List Action) :
    (s.run (actions ++ more)).1 = ((s.run actions).1.run more).1 := by
  induction actions generalizing s with
  | nil => rfl
  | cons action actions ih => exact ih (s.perform action).1

theorem run_induction {motive : Session → List Record → Prop} (before : List Record)
    (actions : List Action) (hstart : motive s before)
    (hstep : ∀ s before s' records, motive s before → Effect s s' records →
      motive s' (before ++ records)) :
    motive (s.run actions).1 (before ++ (s.run actions).2) := by
  induction actions generalizing s before with
  | nil => rwa [run, List.append_nil]
  | cons action actions ih =>
    have hnext := ih _ (hstep _ _ _ _ hstart (s.perform_effect action))
    rwa [List.append_assoc] at hnext

end Session

end Redline
