import Redline.Session.Step

/-!
# How a submission ends

A prompt is submitted in up to four steps: it is trimmed, the active file is read and checked, the
context files are read, and the request is handed over. A submission may end at each of them. The
five ways in which it ends are listed here once, each with everything that it leaves behind.
-/

namespace Redline

open Redline.Text

namespace Session

variable {σ δ : Type}

/-! ## On the way to a request -/

/-- The session that asks a request of the next generation. -/
def asking (s : Session) (prompt : String) : Session :=
  { s.push (.userInput prompt) with lastGeneration := s.lastGeneration + 1 }

/-- The session that waits for the outcome of a request of the latest generation. -/
def waiting (s : Session) (hint : String) (active : FileSnapshot) (snapshot : ContextSnapshot) :
    Session :=
  { s.push (.loading hint) with inFlight := some ⟨s.lastGeneration, active, snapshot⟩ }

/-- The request that a session hands over for a prompt, given what it has read for it. -/
def requestFor (s : Session) (prompt : String) (active : FileSnapshot)
    (snapshot : ContextSnapshot) : Request :=
  ⟨prompt, active, snapshot.files, s.model⟩

@[simp] theorem turns_push (s : Session) (turn : Turn) : (s.push turn).turns = s.turns ++ [turn] :=
  rfl

@[simp] theorem inFlight_push (s : Session) (turn : Turn) :
    (s.push turn).inFlight = s.inFlight := rfl

@[simp] theorem lastGeneration_push (s : Session) (turn : Turn) :
    (s.push turn).lastGeneration = s.lastGeneration := rfl

@[simp] theorem turns_asking (s : Session) (prompt : String) :
    (s.asking prompt).turns = s.turns ++ [.userInput prompt] := rfl

@[simp] theorem inFlight_asking (s : Session) (prompt : String) :
    (s.asking prompt).inFlight = s.inFlight := rfl

@[simp] theorem lastGeneration_asking (s : Session) (prompt : String) :
    (s.asking prompt).lastGeneration = s.lastGeneration + 1 := rfl

@[simp] theorem turns_waiting (s : Session) (hint : String) (active : FileSnapshot)
    (snapshot : ContextSnapshot) :
    (s.waiting hint active snapshot).turns = s.turns ++ [.loading hint] := rfl

@[simp] theorem inFlight_waiting (s : Session) (hint : String) (active : FileSnapshot)
    (snapshot : ContextSnapshot) :
    (s.waiting hint active snapshot).inFlight = some ⟨s.lastGeneration, active, snapshot⟩ := rfl

@[simp] theorem lastGeneration_waiting (s : Session) (hint : String) (active : FileSnapshot)
    (snapshot : ContextSnapshot) :
    (s.waiting hint active snapshot).lastGeneration = s.lastGeneration := rfl

/-! ## The five ends -/

/-- How the submission of a text ends. -/
inductive Submission (S : Surface σ) (D : Dispatcher δ) (text : String) (s : Session) (surface : σ)
    (dispatcher : δ) : Submitted σ δ → Prop
  /-- There is no prompt. -/
  | blank : isBlankText text = true →
    Submission S D text s surface dispatcher ⟨.ignored, [], s, surface, dispatcher⟩
  /-- Another request is under way. -/
  | busy (f : InFlight) : isBlankText text = false → s.inFlight = some f →
    Submission S D text s surface dispatcher
      ⟨.ignored, [.info ("Ignoring new message while request " ++ toString f.generation ++
        " is in flight")], s, surface, dispatcher⟩
  /-- There is no active file to ask about. -/
  | unasked (message : String) : isBlankText text = false → s.inFlight = none →
    checkActive s.options (S.active surface).1 = .error message →
    Submission S D text s surface dispatcher
      ⟨.rejected, [.error message], (s.push (.userInput (trim text))).push (.error message),
        (S.active surface).2, dispatcher⟩
  /-- The request is refused. -/
  | refused (active : FileSnapshot) (snapshot : ContextSnapshot) (warnings : List Event)
    (surface' : σ) (message : String) (dispatcher' : δ) :
    isBlankText text = false → s.inFlight = none →
    checkActive s.options (S.active surface).1 = .ok active →
    s.context.snapshot S active (S.active surface).2 = (snapshot, warnings, surface') →
    D.dispatch (s.lastGeneration + 1) (s.requestFor (trim text) active snapshot) dispatcher =
      (.error message, dispatcher') →
    Submission S D text s surface dispatcher
      ⟨.rejected, warnings ++ [.error ("Failed to send request: " ++ message)],
        (s.asking (trim text)).push (.error ("Failed to send request: " ++ message)), surface',
        dispatcher'⟩
  /-- The request is accepted. -/
  | accepted (active : FileSnapshot) (snapshot : ContextSnapshot) (warnings : List Event)
    (surface' : σ) (dispatcher' : δ) :
    isBlankText text = false → s.inFlight = none →
    checkActive s.options (S.active surface).1 = .ok active →
    s.context.snapshot S active (S.active surface).2 = (snapshot, warnings, surface') →
    D.dispatch (s.lastGeneration + 1) (s.requestFor (trim text) active snapshot) dispatcher =
      (.ok (), dispatcher') →
    Submission S D text s surface dispatcher
      ⟨.dispatched (s.lastGeneration + 1), warnings ++ [.info ("Dispatched request " ++
        toString (s.lastGeneration + 1) ++ " with model " ++ s.model)],
        (s.asking (trim text)).waiting s.options.loadingHint active snapshot, surface',
        dispatcher'⟩

/-- **Every submission ends in one of these ways.** -/
theorem submission (S : Surface σ) (D : Dispatcher δ) (text : String) (s : Session) (surface : σ)
    (dispatcher : δ) :
    Submission S D text s surface dispatcher (s.submit S D text surface dispatcher) := by
  simp only [submit, trimmed?]
  cases hblank : isBlankText text with
  | true => exact .blank hblank
  | false =>
    rw [if_neg Bool.false_ne_true]
    cases hflight : s.inFlight with
    | some f => exact .busy f hblank hflight
    | none =>
      dsimp only
      cases hactive : checkActive s.options (S.active surface).1 with
      | error message => exact .unasked message hblank hflight hactive
      | ok active =>
        rcases hsnapshot : s.context.snapshot S active (S.active surface).2
          with ⟨snapshot, warnings, surface'⟩
        rcases hanswer : D.dispatch (s.lastGeneration + 1)
          (s.requestFor (trim text) active snapshot) dispatcher with ⟨message | ⟨⟩, dispatcher'⟩
        · have hend := Submission.refused active snapshot warnings surface' message dispatcher'
            hblank hflight hactive hsnapshot hanswer
          rw [requestFor] at hanswer
          simp only [hsnapshot, hanswer]
          exact hend
        · have hend := Submission.accepted active snapshot warnings surface' dispatcher'
            hblank hflight hactive hsnapshot hanswer
          rw [requestFor] at hanswer
          simp only [hsnapshot, hanswer]
          exact hend

/-! ## Views of a dispatcher -/

/-- A dispatcher that is a view of another one, with the same answers, leads to the same end, and is
left as a view of that one. -/
theorem submit_view {δ' : Type} (D : Dispatcher δ) (D' : Dispatcher δ') (view : δ' → δ)
    (hview : ∀ generation request state, D.dispatch generation request (view state) =
      ((D'.dispatch generation request state).1, view (D'.dispatch generation request state).2))
    (S : Surface σ) (text : String) (s : Session) (surface : σ) (state : δ') :
    let r := s.submit S D' text surface state
    s.submit S D text surface (view state) =
      ⟨r.outcome, r.events, r.session, r.surface, view r.dispatcher⟩ := by
  simp only [submit]
  cases trimmed? text with
  | none => rfl
  | some prompt =>
    cases s.inFlight with
    | some f => rfl
    | none =>
      dsimp only
      cases checkActive s.options (S.active surface).1 with
      | error message => rfl
      | ok active =>
        simp only [hview]
        rcases D'.dispatch (s.lastGeneration + 1) ⟨prompt, active,
          (s.context.snapshot S active (S.active surface).2).1.files, s.model⟩ state
          with ⟨_ | _, state'⟩ <;> rfl

end Session

end Redline
