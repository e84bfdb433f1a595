import Redline.Proofs.Session.Run

/-!
# The log of a session

Every prompt in a log is followed by its outcome, and only the last one may still wait for it. While
it waits, the loading mark stands in the place of the outcome.

Taking an outcome removes the last turn only if that is the loading mark, without a look at what
comes before it. That this is the right turn is not seen from the removal itself: it holds because a
session with a request under way has a log that ends with a prompt and the mark.
-/

namespace Redline

/-- Prompts and outcomes by turns. -/
inductive Settled : List Turn → Prop
  | nil : Settled []
  | cons (prompt : String) {outcome : Turn} {turns : List Turn} :
    outcome.IsOutcome → Settled turns → Settled (.userInput prompt :: outcome :: turns)

namespace Settled

variable {turns more : List Turn} {prompt : String} {outcome t : Turn}

theorem append (h : Settled turns) (hmore : Settled more) : Settled (turns ++ more) := by
  induction h with
  | nil => exact hmore
  | cons prompt houtcome _ ih => exact .cons prompt houtcome ih

theorem concat (h : Settled turns) (houtcome : outcome.IsOutcome) :
    Settled (turns ++ [.userInput prompt, outcome]) :=
  h.append (.cons prompt houtcome .nil)

theorem isLoading_eq_false (h : Settled turns) (ht : t ∈ turns) : t.isLoading = false := by
  induction h with
  | nil => exact absurd ht List.not_mem_nil
  | cons prompt houtcome _ ih =>
    rcases List.mem_cons.mp ht with rfl | ht
    · rfl
    · rcases List.mem_cons.mp ht with rfl | ht
      · exact houtcome.2
      · exact ih ht

theorem ne_concat_loading {front : List Turn} {hint : String} (h : Settled turns) :
    turns ≠ front ++ [t, .loading hint] := by
  rintro rfl
  have hmem : Turn.loading hint ∈ front ++ [t, .loading hint] := by simp
  exact absurd (h.isLoading_eq_false hmem) Bool.noConfusion

end Settled

namespace Session

/-- The log of a session that waits ends with a prompt and the loading mark, and the request under
way is the latest one; without these it is settled. -/
def LogKept (s : Session) : Prop :=
  match s.inFlight with
  | none => Settled s.turns
  | some f => f.generation = s.lastGeneration ∧ ∃ settled prompt hint,
      Settled settled ∧ s.turns = settled ++ [.userInput prompt, .loading hint]

variable {s s' : Session} {records : List Record}

theorem logKept_idle (h : s.inFlight = none) : s.LogKept ↔ Settled s.turns := by
  rw [LogKept, h]

theorem logKept_waiting {f : InFlight} (h : s.inFlight = some f) : s.LogKept ↔
    f.generation = s.lastGeneration ∧ ∃ settled prompt hint,
      Settled settled ∧ s.turns = settled ++ [.userInput prompt, .loading hint] := by
  rw [LogKept, h]

theorem logKept_ofOptions (options : SessionOptions) : (ofOptions options).LogKept := Settled.nil

/-- **Every call keeps the log.** -/
theorem LogKept.effect (h : s.LogKept) (heffect : Effect s s' records) : s'.LogKept := by
  cases heffect with
  | kept hturns hflight hgeneration => rwa [LogKept, hturns, hflight, hgeneration]
  | unasked prompt message hidle =>
    have hidle' : ((s.push (.userInput prompt)).push (.error message)).inFlight = none := hidle
    rw [logKept_idle hidle] at h
    rw [logKept_idle hidle', turns_push, turns_push, List.append_assoc]
    exact h.concat (Turn.isOutcome_error message)
  | refused prompt message hidle =>
    have hidle' : ((s.asking prompt).push (.error message)).inFlight = none := hidle
    rw [logKept_idle hidle] at h
    rw [logKept_idle hidle', turns_push, turns_asking, List.append_assoc]
    exact h.concat (Turn.isOutcome_error message)
  | accepted prompt hint active snapshot hidle =>
    rw [logKept_idle hidle] at h
    refine (logKept_waiting (inFlight_waiting ..)).mpr ⟨rfl, s.turns, prompt, hint, h, ?_⟩
    rw [turns_waiting, turns_asking, List.append_assoc]
    rfl
  | taken f turn hflight houtcome =>
    obtain ⟨-, settled, prompt, hint, hsettled, hturns⟩ := (logKept_waiting hflight).mp h
    -- The turn that is removed is the mark of this very request.
    have hloading : s.turns = (settled ++ [.userInput prompt]) ++ [.loading hint] := by
      rw [hturns, List.append_assoc]
      rfl
    rw [logKept_idle (inFlight_answered s turn), turns_answered turn hloading, List.append_assoc]
    exact hsettled.concat houtcome
  | stale generation => exact h
  | cleared => exact Settled.nil

theorem logKept_run (options : SessionOptions) (actions : List Action) :
    ((ofOptions options).run actions).1.LogKept :=
  run_induction (motive := fun s _ ↦ s.LogKept) [] actions (logKept_ofOptions options)
    fun _ _ _ _ hkept heffect ↦ hkept.effect heffect

/-- **Every prompt is answered once**, in every run. The log is made of prompts with their outcomes;
a last prompt with the loading mark follows exactly while a request is under way, and that request
is the latest one. -/
theorem log_run (options : SessionOptions) (actions : List Action) :
    let s := ((ofOptions options).run actions).1
    (∃ settled, Settled settled ∧
      (s.isPending = false ∧ s.turns = settled ∨
        s.isPending = true ∧ ∃ prompt hint,
          s.turns = settled ++ [.userInput prompt, .loading hint])) ∧
    ((∃ front prompt hint, s.turns = front ++ [.userInput prompt, .loading hint]) ↔
      s.isPending = true) ∧
    ∀ f, s.inFlight = some f → f.generation = s.lastGeneration := by
  intro s
  have hkept : s.LogKept := logKept_run options actions
  cases hflight : s.inFlight with
  | none =>
    have hpending : s.isPending = false := by rw [isPending, hflight]; rfl
    have hsettled := (logKept_idle hflight).mp hkept
    refine ⟨⟨s.turns, hsettled, Or.inl ⟨hpending, rfl⟩⟩, ?_, nofun⟩
    constructor
    · rintro ⟨front, prompt, hint, hturns⟩
      exact absurd hturns hsettled.ne_concat_loading
    · intro h
      rw [hpending] at h
      exact absurd h Bool.false_ne_true
  | some f =>
    have hpending : s.isPending = true := by rw [isPending, hflight]; rfl
    obtain ⟨hgeneration, settled, prompt, hint, hsettled, hturns⟩ :=
      (logKept_waiting hflight).mp hkept
    refine ⟨⟨settled, hsettled, Or.inr ⟨hpending, prompt, hint, hturns⟩⟩, ?_, ?_⟩
    · exact ⟨fun _ ↦ hpending, fun _ ↦ ⟨settled, prompt, hint, hturns⟩⟩
    · intro g hg
      obtain rfl := Option.some.inj hg
      exact hgeneration

end Session

end Redline
