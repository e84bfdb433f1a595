import Redline.Proofs.Session.Gathered

/-!
# What becomes of a prompt

A submission is answered in one of three ways: the prompt is ignored, a request is on its way, or
the prompt was answered with an error. Between the text and this answer lie up to six places where
the submission may end, and each leaves another part of the work behind: nothing, a prompt with an
error, a generation that is used up, a request that waits.

The answer tells which it was. Whether the dispatcher was called is seen from the notes that are
taken of its calls; the surface and the dispatcher are any, so that one which keeps an account of
its calls shows as well that an ignored prompt does not reach it.
-/

namespace Redline

open Redline.Text

namespace Session

variable {σ δ : Type} {S : Surface σ} {D : Dispatcher δ} {text : String} {s : Session} {surface : σ}
  {dispatcher : δ} {request : Request} {message : String} {asked : List (Generation × Request)}

/-! ## Requests and obstacles -/

/-- A text leads to a request: the surface gives an active file of an accepted kind, and the context
files are read after it was asked for that. -/
def Asks (S : Surface σ) (text : String) (s : Session) (surface : σ) (request : Request) : Prop :=
  ∃ active, (S.active surface).1 = .ok (some active) ∧ s.options.accepts active.path = true ∧
    request = s.requestFor (trim text) active (s.context.snapshot S active (S.active surface).2).1

/-- A text leads to a request, and the dispatcher accepts it. -/
def Accepted (S : Surface σ) (D : Dispatcher δ) (text : String) (s : Session) (surface : σ)
    (dispatcher : δ) (request : Request) : Prop :=
  Asks S text s surface request ∧
    (D.dispatch (s.lastGeneration + 1) request dispatcher).1 = .ok ()

/-- Why a prompt is answered with an error: the wording of the error, and what the dispatcher is
handed nevertheless. -/
inductive Obstacle (S : Surface σ) (D : Dispatcher δ) (text : String) (s : Session) (surface : σ)
    (dispatcher : δ) : String → List (Generation × Request) → Prop
  | unreadable (e : SurfaceError) : (S.active surface).1 = .error e →
    Obstacle S D text s surface dispatcher ("Could not read the active file: " ++ e.message) []
  | missing : (S.active surface).1 = .ok none →
    Obstacle S D text s surface dispatcher
      "No active file. Open a file before asking for changes." []
  /-- The active file is of a kind that is not accepted. -/
  | unsupported (file : FileSnapshot) : (S.active surface).1 = .ok (some file) →
    s.options.accepts file.path = false →
    Obstacle S D text s surface dispatcher (file.path ++
      " is not a supported file type (accepted: " ++ ", ".intercalate s.options.extensions ++ ")")
      []
  /-- The dispatcher refuses the request. -/
  | refused (request : Request) (cause : String) : Asks S text s surface request →
    (D.dispatch (s.lastGeneration + 1) request dispatcher).1 = .error cause →
    Obstacle S D text s surface dispatcher ("Failed to send request: " ++ cause)
      [(s.lastGeneration + 1, request)]

theorem asks_requestFor {active : FileSnapshot} {snapshot : ContextSnapshot}
    {warnings : List Event} {surface' : σ}
    (hactive : checkActive s.options (S.active surface).1 = .ok active)
    (hsnapshot : s.context.snapshot S active (S.active surface).2 = (snapshot, warnings, surface'))
    (text : String) : Asks S text s surface (s.requestFor (trim text) active snapshot) := by
  obtain ⟨hfocus, haccepts⟩ := checkActive_eq_ok_iff.mp hactive
  exact ⟨active, hfocus, haccepts, by rw [hsnapshot]⟩

theorem obstacle_of_error (h : checkActive s.options (S.active surface).1 = .error message)
    (D : Dispatcher δ) (text : String) (dispatcher : δ) :
    Obstacle S D text s surface dispatcher message [] := by
  rcases hanswer : (S.active surface).1 with e | _ | file
  · rw [hanswer] at h
    obtain rfl := Except.error.inj h
    exact .unreadable e hanswer
  · rw [hanswer] at h
    obtain rfl := Except.error.inj h
    exact .missing hanswer
  · rw [hanswer, checkActive] at h
    split at h
    next => cases h
    next hrefused =>
      obtain rfl := Except.error.inj h
      exact .unsupported file hanswer (Bool.eq_false_iff.mpr hrefused)

theorem Obstacle.not_accepted (h : Obstacle S D text s surface dispatcher message asked)
    (request : Request) : ¬Accepted S D text s surface dispatcher request := by
  rintro ⟨⟨active, hactive, haccepts, rfl⟩, hanswer⟩
  cases h with
  | unreadable e herror => exact absurd (hactive.symm.trans herror) nofun
  | missing hnone => exact absurd (hactive.symm.trans hnone) nofun
  | unsupported file hfile hrefused =>
    obtain rfl := Option.some.inj (Except.ok.inj (hfile.symm.trans hactive))
    exact absurd (hrefused.symm.trans haccepts) Bool.false_ne_true
  | refused _ cause hasks hrefused =>
    obtain ⟨other, hother, -, rfl⟩ := hasks
    obtain rfl := Option.some.inj (Except.ok.inj (hother.symm.trans hactive))
    exact absurd (hrefused.symm.trans hanswer) nofun

/-! ## What the answers say -/

/-- What the answer to a submission says about the submission, given what the dispatcher was handed
and what is left behind. -/
structure Handled (S : Surface σ) (D : Dispatcher δ) (text : String) (s : Session) (surface : σ)
    (dispatcher : δ) (asked : List (Generation × Request)) (r : Submitted σ δ) : Prop where
  /-- Exactly a blank text, or one that comes while a request is under way, is ignored. -/
  ignored_iff : r.outcome = .ignored ↔ isBlankText text = true ∨ s.isPending = true
  /-- Then everything stays as it is. -/
  ignored : r.outcome = .ignored →
    r.session = s ∧ r.surface = surface ∧ r.dispatcher = dispatcher ∧ asked = []
  /-- A request is on its way exactly if no other one was and the dispatcher has accepted it. Its
  generation is the next one. -/
  dispatched_iff : ∀ generation, r.outcome = .dispatched generation ↔
    generation = s.lastGeneration + 1 ∧ isBlankText text = false ∧ s.isPending = false ∧
      ∃ request, Accepted S D text s surface dispatcher request
  /-- Then the session waits for its outcome, and it was handed over once. -/
  dispatched : ∀ generation, r.outcome = .dispatched generation →
    r.session.state = .awaiting generation ∧ r.session.lastGeneration = generation ∧
      ∃ request, Accepted S D text s surface dispatcher request ∧ asked = [(generation, request)]
  /-- The prompt is answered with an error exactly if there is an obstacle. -/
  rejected_iff : r.outcome = .rejected ↔ isBlankText text = false ∧ s.isPending = false ∧
    ∃ message asked, Obstacle S D text s surface dispatcher message asked
  /-- Then the session waits for nothing, and the prompt and the error were added to its log. -/
  rejected : r.outcome = .rejected → r.session.state = .idle ∧
    ∃ message, Obstacle S D text s surface dispatcher message asked ∧
      r.session.turns = s.turns ++ [.userInput (trim text), .error message]

theorem isPending_eq_false_iff : s.isPending = false ↔ s.inFlight = none := by
  rw [isPending, Option.isSome_eq_false_iff, Option.isNone_iff_eq_none]

theorem state_of_idle (h : s.inFlight = none) : s.state = .idle := by
  rw [state, h]

theorem handled_ignored (hwhy : isBlankText text = true ∨ s.isPending = true)
    (events : List Event) :
    Handled S D text s surface dispatcher [] ⟨.ignored, events, s, surface, dispatcher⟩ := by
  have hnot : ¬(isBlankText text = false ∧ s.isPending = false) := by
    rintro ⟨hblank, hidle⟩
    rcases hwhy with hblank' | hpending
    · exact absurd (hblank.symm.trans hblank') Bool.false_ne_true
    · exact absurd (hidle.symm.trans hpending) Bool.false_ne_true
  exact {
    ignored_iff := iff_of_true rfl hwhy
    ignored := fun _ ↦ ⟨rfl, rfl, rfl, rfl⟩
    dispatched_iff := fun _ ↦ iff_of_false nofun fun h ↦ hnot ⟨h.2.1, h.2.2.1⟩
    dispatched := nofun
    rejected_iff := iff_of_false nofun fun h ↦ hnot ⟨h.1, h.2.1⟩
    rejected := nofun }

theorem not_ignored (hblank : isBlankText text = false) (hidle : s.isPending = false) :
    ¬(isBlankText text = true ∨ s.isPending = true) := by
  rw [hblank, hidle, or_self]
  exact Bool.false_ne_true

theorem handled_rejected {events : List Event} {s' : Session} {surface' : σ} {dispatcher' : δ}
    (hblank : isBlankText text = false) (hidle : s.inFlight = none)
    (hobstacle : Obstacle S D text s surface dispatcher message asked)
    (hflight : s'.inFlight = none)
    (hturns : s'.turns = s.turns ++ [.userInput (trim text), .error message]) :
    Handled S D text s surface dispatcher asked
      ⟨.rejected, events, s', surface', dispatcher'⟩ := by
  have hidle' := isPending_eq_false_iff.mpr hidle
  exact {
    ignored_iff := iff_of_false nofun (not_ignored hblank hidle')
    ignored := nofun
    dispatched_iff := fun _ ↦ iff_of_false nofun fun ⟨_, _, _, request, haccepted⟩ ↦
      hobstacle.not_accepted request haccepted
    dispatched := nofun
    rejected_iff := iff_of_true rfl ⟨hblank, hidle', message, asked, hobstacle⟩
    rejected := fun _ ↦ ⟨state_of_idle hflight, message, hobstacle, hturns⟩ }

theorem handled_dispatched {events : List Event} {s' : Session} {f : InFlight} {surface' : σ}
    {dispatcher' : δ} (hblank : isBlankText text = false) (hidle : s.inFlight = none)
    (haccepted : Accepted S D text s surface dispatcher request) (hflight : s'.inFlight = some f)
    (hgeneration : f.generation = s.lastGeneration + 1)
    (hlast : s'.lastGeneration = s.lastGeneration + 1) :
    Handled S D text s surface dispatcher [(s.lastGeneration + 1, request)]
      ⟨.dispatched (s.lastGeneration + 1), events, s', surface', dispatcher'⟩ := by
  have hidle' := isPending_eq_false_iff.mpr hidle
  have hstate : s'.state = .awaiting (s.lastGeneration + 1) := by
    rw [state, hflight, ← hgeneration]
  exact {
    ignored_iff := iff_of_false nofun (not_ignored hblank hidle')
    ignored := nofun
    dispatched_iff := fun generation ↦ by
      rw [SubmitOutcome.dispatched.injEq, eq_comm]
      exact ⟨fun h ↦ ⟨h, hblank, hidle', request, haccepted⟩, And.left⟩
    dispatched := by
      rintro _ ⟨⟩
      exact ⟨hstate, hlast, request, haccepted, rfl⟩
    rejected_iff := iff_of_false nofun fun ⟨_, _, _, _, hobstacle⟩ ↦
      hobstacle.not_accepted request haccepted
    rejected := nofun }

/-! ## The theorem -/

/-- The requests that a submission hands over, each under its generation. -/
def handed (S : Surface σ) (D : Dispatcher δ) (text : String) (s : Session) (surface : σ)
    (dispatcher : δ) : List (Generation × Request) :=
  (s.submit S D.noting text surface (dispatcher, [])).dispatcher.2

/-- **The answer to a submission is true**, for every session, text, surface and dispatcher. A
prompt is ignored exactly if it is blank or a request is under way, and then nothing is touched; a
request is on its way exactly if the dispatcher was handed one and accepted it, under the next
generation, for which the session then waits; in all other cases the session waits for nothing, the
prompt and an error have been added to the log, and the dispatcher was not called unless it was the
one that refused. -/
theorem prompt_handled (S : Surface σ) (D : Dispatcher δ) (text : String) (s : Session)
    (surface : σ) (dispatcher : δ) :
    Handled S D text s surface dispatcher (s.handed S D text surface dispatcher)
      (s.submit S D text surface dispatcher) := by
  have hend := submission S D.noting text s surface (dispatcher, [])
  rw [submit_eq_noting S D text s surface dispatcher, handed]
  generalize s.submit S D.noting text surface (dispatcher, []) = r at hend ⊢
  cases hend with
  | blank hblank => exact handled_ignored (.inl hblank) _
  | busy f hblank hflight =>
    refine handled_ignored (.inr ?_) _
    rw [isPending, hflight, Option.isSome_some]
  | unasked message hblank hidle hactive =>
    refine handled_rejected hblank hidle (obstacle_of_error hactive D text dispatcher) hidle ?_
    rw [turns_push, turns_push, List.append_assoc]
    rfl
  | refused active snapshot warnings surface' message d hblank hidle hactive hsnapshot hanswer =>
    have hasks := asks_requestFor hactive hsnapshot text
    obtain ⟨hrefused, rfl⟩ := Prod.mk.inj hanswer
    refine handled_rejected hblank hidle (.refused _ message hasks hrefused) hidle ?_
    rw [turns_push, turns_asking, List.append_assoc]
    rfl
  | accepted active snapshot warnings surface' d hblank hidle hactive hsnapshot hanswer =>
    have hasks := asks_requestFor hactive hsnapshot text
    obtain ⟨haccepted, rfl⟩ := Prod.mk.inj hanswer
    refine handled_dispatched hblank hidle ⟨hasks, haccepted⟩ (inFlight_waiting ..) rfl ?_
    rw [lastGeneration_waiting, lastGeneration_asking]

end Session

end Redline
