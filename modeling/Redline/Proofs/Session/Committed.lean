import Redline.Proofs.Session.Log

/-!
# Committed turns

A turn that has been committed stays as it is and where it is until the conversation is cleared. The
only turn that is ever taken back is the loading mark, and it is taken back once, for the turn that
answers its prompt.

Removing the mark and adding the answer are two steps, and neither looks at what the other does. The
mark is removed only if it is the last turn, and the answer is added whatever has been removed. That
together they replace the mark by the answer is due to the log of a session that waits, which ends
with its mark and has no other.
-/

namespace Redline

open Redline.Text

/-! ## Logs without their mark -/

namespace Turn

/-- The turns of a log without a loading mark at its end. -/
def committed (turns : List Turn) : List Turn :=
  match turns.getLast? with
  | some turn => if turn.isLoading then turns.dropLast else turns
  | none => turns

variable {turns front : List Turn}

theorem committed_concat_loading (front : List Turn) (hint : String) :
    committed (front ++ [.loading hint]) = front := by
  rw [committed, List.getLast?_concat]
  simp only [isLoading, if_true, List.dropLast_concat]

theorem committed_eq_self (h : ∀ t ∈ turns, t.isLoading = false) : committed turns = turns := by
  rw [committed]
  split
  next turn hlast =>
    have hturn : turn.isLoading = false := h turn (List.mem_of_getLast? hlast)
    rw [hturn, if_neg Bool.false_ne_true]
  next => rfl

theorem committed_isPrefix (turns : List Turn) : committed turns <+: turns := by
  rw [committed]
  split
  · split
    · exact List.dropLast_prefix turns
    · exact List.prefix_refl turns
  · exact List.prefix_refl turns

/-- What a log begins with is committed if there is no loading mark in it. -/
theorem prefix_committed (hfront : front <+: turns) (h : ∀ t ∈ front, t.isLoading = false) :
    front <+: committed turns := by
  rcases List.eq_nil_or_concat turns with rfl | ⟨rest, last, rfl⟩
  · exact hfront
  · rw [List.concat_eq_append] at hfront ⊢
    by_cases hlast : last.isLoading
    · obtain ⟨hint, rfl⟩ : ∃ hint, last = .loading hint := by
        cases last with
        | loading hint => exact ⟨hint, rfl⟩
        | _ => exact absurd hlast Bool.false_ne_true
      rw [committed_concat_loading]
      rcases List.prefix_concat_iff.mp hfront with rfl | hrest
      · have hmark : (Turn.loading hint).isLoading = false :=
          h _ (List.mem_append_right _ List.mem_cons_self)
        exact absurd hmark Bool.noConfusion
      · exact hrest
    · have hwhole : committed (rest ++ [last]) = rest ++ [last] := by
        rw [committed, List.getLast?_concat]
        simp only [if_neg hlast]
      rwa [hwhole]

/-- The one loading mark of a log, which stands at its end, has been replaced by a turn. -/
def MarkReplaced (before after : List Turn) (turn : Turn) : Prop :=
  ∃ front hint, before = front ++ [.loading hint] ∧ (∀ t ∈ front, t.isLoading = false) ∧
    after = front ++ [turn]

theorem isError_ofReply (active : FileSnapshot) (snapshot : ContextSnapshot) {reply : Reply}
    (h : reply.isMalformed = true) : (ofReply active snapshot reply).1.isError = true := by
  cases reply with
  | malformed reason => rfl
  | _ => exact absurd h Bool.false_ne_true

end Turn

open Turn

namespace Session

variable {σ δ : Type} {s s' : Session} {records : List Record}

/-! ## One call -/

theorem LogKept.exists_mark {f : InFlight} (h : s.LogKept) (hflight : s.inFlight = some f) :
    ∃ front hint, s.turns = front ++ [.loading hint] ∧ ∀ t ∈ front, t.isLoading = false := by
  obtain ⟨-, settled, prompt, hint, hsettled, hturns⟩ := (logKept_waiting hflight).mp h
  refine ⟨settled ++ [.userInput prompt], hint, ?_, ?_⟩
  · rw [hturns, List.append_assoc]
    rfl
  · intro t ht
    rcases List.mem_append.mp ht with ht | ht
    · exact hsettled.isLoading_eq_false ht
    · rw [List.mem_singleton.mp ht]
      rfl

theorem LogKept.isLoading_committed (h : s.LogKept) :
    ∀ t ∈ committed s.turns, t.isLoading = false := by
  cases hflight : s.inFlight with
  | none =>
    have hsettled : Settled s.turns := (logKept_idle hflight).mp h
    intro t ht
    exact hsettled.isLoading_eq_false ((committed_isPrefix s.turns).subset ht)
  | some f =>
    obtain ⟨front, hint, hturns, hfront⟩ := h.exists_mark hflight
    rw [hturns, committed_concat_loading]
    exact hfront

theorem LogKept.markReplaced {f : InFlight} (h : s.LogKept) (hflight : s.inFlight = some f)
    (turn : Turn) : MarkReplaced s.turns (s.answered turn).turns turn := by
  obtain ⟨front, hint, hturns, hfront⟩ := h.exists_mark hflight
  exact ⟨front, hint, hturns, hfront, turns_answered turn hturns⟩

/-- **Every call but a clearing keeps the committed turns.** -/
theorem LogKept.committed_prefix_effect (h : s.LogKept) (heffect : Effect s s' records)
    (hclear : Record.cleared ∉ records) : committed s.turns <+: s'.turns := by
  have hself : committed s.turns <+: s.turns := committed_isPrefix s.turns
  cases heffect with
  | kept hturns hflight hgeneration => rwa [hturns]
  | unasked prompt message hidle =>
    rw [turns_push, turns_push, List.append_assoc]
    exact hself.trans (List.prefix_append _ _)
  | refused prompt message hidle =>
    rw [turns_push, turns_asking, List.append_assoc]
    exact hself.trans (List.prefix_append _ _)
  | accepted prompt hint active snapshot hidle =>
    rw [turns_waiting, turns_asking, List.append_assoc]
    exact hself.trans (List.prefix_append _ _)
  | taken f turn hflight houtcome =>
    obtain ⟨front, hint, hbefore, -, hafter⟩ := h.markReplaced hflight turn
    rw [hbefore, hafter, committed_concat_loading]
    exact List.prefix_append _ _
  | stale generation hstale => exact hself
  | cleared => exact absurd List.mem_cons_self hclear

/-- Only a clearing is recorded as one. -/
theorem cleared_notMem_perform (s : Session) {action : Action} (h : action ≠ .clear) :
    Record.cleared ∉ (s.perform action).2 := by
  cases action with
  | submit S D text surface dispatcher =>
    -- A submission records what its dispatcher was handed, and nothing else.
    have hend := submission S D.watched text s surface (dispatcher, [])
    simp only [perform]
    generalize s.submit S D.watched text surface (dispatcher, []) = r at hend
    cases hend with
    | refused active snapshot warnings surface' message d hblank hidle hactive hsnapshot hanswer =>
      rw [Dispatcher.records_of_watched hanswer, List.mem_singleton]
      exact Record.noConfusion
    | accepted active snapshot warnings surface' d hblank hidle hactive hsnapshot hanswer =>
      rw [Dispatcher.records_of_watched hanswer, List.mem_singleton]
      exact Record.noConfusion
    | _ => exact List.not_mem_nil
  | reply S generation value surface => simp [perform]
  | failure generation message => simp [perform]
  | clear => exact absurd rfl h
  | setModel model =>
    rw [perform]
    split <;> exact List.not_mem_nil
  | addContextFile path =>
    rw [perform]
    split <;> exact List.not_mem_nil
  | removeContextFile path => exact List.not_mem_nil
  | apply S turn surface => exact List.not_mem_nil

theorem LogKept.committed_prefix_perform (h : s.LogKept) {action : Action}
    (hclear : action ≠ .clear) : committed s.turns <+: (s.perform action).1.turns :=
  h.committed_prefix_effect (s.perform_effect action) (s.cleared_notMem_perform hclear)

/-! ## Runs -/

/-- **A run without clearings keeps the committed turns.** -/
theorem LogKept.committed_prefix_run (h : s.LogKept) (more : List Action)
    (hclear : ∀ action ∈ more, action ≠ .clear) :
    committed s.turns <+: committed (s.run more).1.turns := by
  induction more generalizing s with
  | nil => exact List.prefix_refl _
  | cons action more ih =>
    obtain ⟨haction, hmore⟩ := List.forall_mem_cons.mp hclear
    have hstep : committed s.turns <+: committed (s.perform action).1.turns :=
      prefix_committed (h.committed_prefix_perform haction) h.isLoading_committed
    have hkept : (s.perform action).1.LogKept := h.effect (s.perform_effect action)
    exact hstep.trans (ih hkept hmore)

/-! ## What each call adds -/

theorem turns_submit (S : Surface σ) (D : Dispatcher δ) (text : String) (s : Session)
    (surface : σ) (dispatcher : δ) :
    let r := s.submit S D text surface dispatcher
    (r.outcome = .ignored → r.session.turns = s.turns) ∧
    (r.outcome ≠ .ignored →
      ∃ turn, r.session.turns = s.turns ++ [.userInput (trim text), turn]) := by
  intro r
  have hend : Submission S D text s surface dispatcher r := submission S D text s surface dispatcher
  generalize r = r at hend ⊢
  cases hend with
  | blank hblank => exact ⟨fun _ ↦ rfl, fun hne ↦ absurd rfl hne⟩
  | busy f hblank hflight => exact ⟨fun _ ↦ rfl, fun hne ↦ absurd rfl hne⟩
  | unasked message hblank hidle hactive =>
    refine ⟨nofun, fun _ ↦ ⟨.error message, ?_⟩⟩
    rw [turns_push, turns_push, List.append_assoc]
    rfl
  | refused active snapshot warnings surface' message d hblank hidle hactive hsnapshot hanswer =>
    refine ⟨nofun, fun _ ↦ ⟨.error ("Failed to send request: " ++ message), ?_⟩⟩
    rw [turns_push, turns_asking, List.append_assoc]
    rfl
  | accepted active snapshot warnings surface' d hblank hidle hactive hsnapshot hanswer =>
    refine ⟨nofun, fun _ ↦ ⟨.loading s.options.loadingHint, ?_⟩⟩
    rw [turns_waiting, turns_asking, List.append_assoc]
    rfl

theorem LogKept.turns_onReply (h : s.LogKept) (S : Surface σ) (generation : Generation)
    (value : Json) (surface : σ) :
    let (taken, _, s', _) := s.onReply S generation value surface
    (taken = true → ∃ turn, MarkReplaced s.turns s'.turns turn ∧ turn.IsOutcome ∧
      ((Reply.classify value).isMalformed = true → turn.isError = true)) ∧
    (taken = false → s'.turns = s.turns) := by
  rcases s.inFlight_or_stale generation with ⟨f, hflight, rfl⟩ | hstale
  · rcases hread : readAgain S f.active surface with ⟨live, reread, after⟩
    rw [onReply_of_inFlight hflight hread]
    refine ⟨fun _ ↦ ⟨_, h.markReplaced hflight _, isOutcome_ofReply _ _ _, ?_⟩,
      fun hfalse ↦ absurd hfalse.symm Bool.false_ne_true⟩
    exact isError_ofReply _ _
  · rw [onReply_of_stale hstale]
    exact ⟨fun htrue ↦ absurd htrue Bool.false_ne_true, fun _ ↦ rfl⟩

theorem LogKept.turns_onFailure (h : s.LogKept) (generation : Generation) (message : String) :
    let (taken, _, s') := s.onFailure generation message
    (taken = true → MarkReplaced s.turns s'.turns (.error message)) ∧
    (taken = false → s'.turns = s.turns) := by
  rcases s.inFlight_or_stale generation with ⟨f, hflight, rfl⟩ | hstale
  · rw [onFailure_of_inFlight hflight]
    exact ⟨fun _ ↦ h.markReplaced hflight _, fun hfalse ↦ absurd hfalse.symm Bool.false_ne_true⟩
  · rw [onFailure_of_stale hstale]
    exact ⟨fun htrue ↦ absurd htrue Bool.false_ne_true, fun _ ↦ rfl⟩

/-- **Committed turns are never altered or lost**, in every run. Until the conversation is cleared,
every call and every sequence of calls keeps them at the beginning of the log. An outcome that is
taken replaces the one loading mark by one turn, an error if it is a failure or a malformed reply; a
stale outcome and an ignored submission add nothing; any other submission adds the trimmed prompt
and one more turn. -/
theorem committed_turns_stay (options : SessionOptions) (actions : List Action) :
    let s := ((ofOptions options).run actions).1
    (∀ action, action ≠ .clear → committed s.turns <+: (s.perform action).1.turns) ∧
    (∀ more : List Action, (∀ action ∈ more, action ≠ .clear) →
      committed s.turns <+: committed (s.run more).1.turns) ∧
    (∀ (σ : Type) (S : Surface σ) (generation : Generation) (value : Json) (surface : σ),
      let (taken, _, s', _) := s.onReply S generation value surface
      (taken = true → ∃ turn, MarkReplaced s.turns s'.turns turn ∧ turn.IsOutcome ∧
        ((Reply.classify value).isMalformed = true → turn.isError = true)) ∧
      (taken = false → s'.turns = s.turns)) ∧
    (∀ (generation : Generation) (message : String),
      let (taken, _, s') := s.onFailure generation message
      (taken = true → MarkReplaced s.turns s'.turns (.error message)) ∧
      (taken = false → s'.turns = s.turns)) ∧
    (∀ (σ δ : Type) (S : Surface σ) (D : Dispatcher δ) (text : String) (surface : σ)
      (dispatcher : δ),
      let r := s.submit S D text surface dispatcher
      (r.outcome = .ignored → r.session.turns = s.turns) ∧
      (r.outcome ≠ .ignored →
        ∃ turn, r.session.turns = s.turns ++ [.userInput (trim text), turn])) := by
  intro s
  have hkept : s.LogKept := logKept_run options actions
  refine ⟨?_, ?_, ?_, ?_, ?_⟩
  · intro action hclear
    exact hkept.committed_prefix_perform hclear
  · intro more hclear
    exact hkept.committed_prefix_run more hclear
  · intro σ S generation value surface
    exact hkept.turns_onReply S generation value surface
  · intro generation message
    exact hkept.turns_onFailure generation message
  · intro σ δ S D text surface dispatcher
    exact turns_submit S D text s surface dispatcher

end Session

end Redline
