import Redline.Proofs.Context.Store
import Redline.Proofs.Session.Run

/-!
# What a call makes of a session

`Effect` says what a call does to the conversation and to the request under way, and leaves the rest
of the session open. Here is what it makes of the whole of it. The options stay what they were when
the session was set up, the context files change by tracking only, and every loading mark shows the
hint of the options.
-/

namespace Redline

open Redline.Text

namespace Session

variable {s s' : Session}

/-- What a call can make of a session, to the last field. -/
inductive Becomes (s : Session) : Session → Prop
  | same : Becomes s s
  | selected (model : String) : Becomes s { s with model := model }
  /-- Another context file is tracked, or one less. -/
  | tracking (c : ContextStore.Call) : Becomes s { s with context := (s.context.perform c).2 }
  /-- A prompt is answered at once, without a request. -/
  | unasked (prompt message : String) :
    Becomes s ((s.push (.userInput prompt)).push (.error message))
  | refused (prompt message : String) : Becomes s ((s.asking prompt).push (.error message))
  | accepted (prompt : String) (active : FileSnapshot) (snapshot : ContextSnapshot) :
    Becomes s ((s.asking prompt).waiting s.options.loadingHint active snapshot)
  | answered {turn : Turn} : turn.IsOutcome → Becomes s (s.answered turn)
  | cleared : Becomes s s.clear

/-- **Every call makes one of these of a session.** -/
theorem perform_becomes (s : Session) (action : Action) : s.Becomes (s.perform action).1 := by
  cases action with
  | submit S D text surface dispatcher =>
    have hend := submission S D text s surface dispatcher
    simp only [perform]
    generalize s.submit S D text surface dispatcher = r at hend
    cases hend with
    | blank | busy => exact .same
    | unasked message => exact .unasked _ message
    | refused active snapshot warnings surface' message => exact .refused _ _
    | accepted active snapshot => exact .accepted _ active snapshot
  | reply S generation value surface =>
    rcases s.inFlight_or_stale generation with ⟨f, hflight, rfl⟩ | hstale
    · rcases hread : readAgain S f.active surface with ⟨live, reread, after⟩
      rw [perform, onReply_of_inFlight hflight hread]
      exact .answered (Turn.isOutcome_ofReply _ _ _)
    · rw [perform, onReply_of_stale hstale]
      exact .same
  | failure generation message =>
    rcases s.inFlight_or_stale generation with ⟨f, hflight, rfl⟩ | hstale
    · rw [perform, onFailure_of_inFlight hflight]
      exact .answered (Turn.isOutcome_error message)
    · rw [perform, onFailure_of_stale hstale]
      exact .same
  | clear => exact .cleared
  | setModel model =>
    rw [perform, setModel]
    cases trimmed? model with
    | none => exact .same
    | some model => exact .selected model
  | addContextFile path =>
    rw [perform, addContextFile]
    cases trimmed? path with
    | none => exact .same
    | some path => exact .tracking (.add path)
  | removeContextFile path => exact .tracking (.remove (trim path))
  | apply S turn surface => exact .same

/-- What holds of a session and is kept by whatever a call makes of it holds in a whole run. -/
theorem run_keeps {motive : Session → Prop} (hstart : motive s)
    (hstep : ∀ s s', motive s → s.Becomes s' → motive s') (actions : List Action) :
    motive (s.run actions).1 := by
  induction actions generalizing s with
  | nil => exact hstart
  | cons action actions ih => exact ih (hstep _ _ hstart (s.perform_becomes action))

/-! ## Options, context and marks -/

theorem answered_eq (s : Session) (turn : Turn) :
    ∃ turns, s.answered turn = { s with turns := turns, inFlight := none } := by
  obtain ⟨turns, hturns⟩ := removeLoading_eq { s with inFlight := none }
  rw [answered, hturns]
  exact ⟨_, rfl⟩

theorem Becomes.options_eq (h : s.Becomes s') : s'.options = s.options := by
  cases h with
  | @answered turn houtcome =>
    obtain ⟨turns, hturns⟩ := s.answered_eq turn
    rw [hturns]
  | _ => rfl

theorem Becomes.context_cases (h : s.Becomes s') :
    s'.context = s.context ∨ ∃ c, s'.context = (s.context.perform c).2 := by
  cases h with
  | tracking c => exact .inr ⟨c, rfl⟩
  | @answered turn houtcome =>
    obtain ⟨turns, hturns⟩ := s.answered_eq turn
    rw [hturns]
    exact .inl rfl
  | _ => exact .inl rfl

theorem notBlank_context (options : SessionOptions) (actions : List Action) :
    ∀ p ∈ ((ofOptions options).run actions).1.context.paths, isBlankText p = false := by
  refine run_keeps (motive := fun s ↦ ∀ p ∈ s.context.paths, isBlankText p = false) ?_ ?_ actions
  · exact fun p hp ↦ absurd hp List.not_mem_nil
  · intro s s' hblank hbecomes
    rcases hbecomes.context_cases with hsame | ⟨c, hcall⟩
    · rwa [hsame]
    · rw [hcall]
      exact ContextStore.notBlank_perform hblank c

theorem options_run (options : SessionOptions) (actions : List Action) :
    ((ofOptions options).run actions).1.options = options :=
  run_keeps (motive := fun s ↦ s.options = options) rfl
    (fun _ _ hsame hbecomes ↦ hbecomes.options_eq.trans hsame) actions

end Session

end Redline
