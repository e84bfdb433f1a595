import Mathlib.Data.List.Forall2
import Redline.Proofs.Session.Proposal
import Redline.Proofs.Session.Surface

/-!
# Errors and the events that report them

An error is told twice: it stands in the log, and an event goes out for a front end that only
listens. The places in which errors are made do not share one way to do both. A submission has two
of them, a failure has one, and two more lie where a reply becomes a turn. The event of one of these
says more than its turn, and before it there may be warnings.

Applying a change set is apart from this: it has errors of its own, which concern the files and do
not enter the log.
-/

namespace Redline

/-- An event reports a turn: both are errors, and the event says at least what the turn says. -/
def Event.Reports (event : Event) (turn : Turn) : Prop :=
  event.level = .error ∧ ∃ message, turn = .error message ∧ message.toList <:+: event.message.toList

def Event.errors (events : List Event) : List Event := events.filter fun e ↦ e.level == .error

def Turn.errors (turns : List Turn) : List Turn := turns.filter Turn.isError

/-- The errors among events report the errors among turns, one by one and in the same order. -/
def Reported (events : List Event) (turns : List Turn) : Prop :=
  List.Forall₂ Event.Reports (Event.errors events) (Turn.errors turns)

section

variable {events more : List Event} {turns others : List Turn}

@[simp] theorem Event.errors_append (events more : List Event) :
    errors (events ++ more) = errors events ++ errors more :=
  List.filter_append ..

@[simp] theorem Turn.errors_append (turns others : List Turn) :
    errors (turns ++ others) = errors turns ++ errors others :=
  List.filter_append ..

theorem Event.level_info_ne (message : String) : (info message).level ≠ .error := nofun

theorem Event.level_warning_ne (message : String) : (warning message).level ≠ .error := nofun

theorem Event.errors_eq_nil (h : ∀ e ∈ events, e.level ≠ .error) : errors events = [] :=
  List.filter_eq_nil_iff.mpr fun e he ↦ by simpa using h e he

theorem Turn.isError_of_isLoading {turn : Turn} (h : turn.isLoading = true) :
    turn.isError = false := by
  cases turn with
  | loading hint => rfl
  | _ => exact absurd h Bool.false_ne_true

theorem Turn.errors_eq_nil (h : ∀ t ∈ turns, t.isError = false) : errors turns = [] :=
  List.filter_eq_nil_iff.mpr fun t ht ↦ by simp [h t ht]

namespace Reported

theorem of_no_error (hevents : ∀ e ∈ events, e.level ≠ .error)
    (hturns : ∀ t ∈ turns, t.isError = false) : Reported events turns := by
  rw [Reported, Event.errors_eq_nil hevents, Turn.errors_eq_nil hturns]
  exact .nil

theorem error (message : String) : Reported [.error message] [.error message] :=
  .cons ⟨rfl, message, rfl, List.infix_rfl⟩ .nil

theorem preceded (hquiet : ∀ e ∈ events, e.level ≠ .error) (h : Reported more turns) :
    Reported (events ++ more) turns := by
  rwa [Reported, Event.errors_append, Event.errors_eq_nil hquiet, List.nil_append]

theorem count_eq (h : Reported events turns) :
    Event.count .error events = turns.countP Turn.isError := by
  rw [Event.count, List.countP_eq_length_filter, List.countP_eq_length_filter]
  exact h.length_eq

end Reported

end

/-! ## Where errors are made -/

theorem ContextStore.level_of_mem_readAll {σ : Type} (S : Surface σ) (paths : List String) (s : σ) :
    ∀ e ∈ (readAll S paths s).2.1, e.level ≠ .error := by
  induction paths generalizing s with
  | nil => exact fun e he ↦ absurd he List.not_mem_nil
  | cons path paths ih =>
    rw [readAll]
    rcases S.read path s with ⟨e | content, s'⟩
    · exact List.forall_mem_cons.mpr ⟨Event.level_warning_ne _, ih s'⟩
    · exact ih s'

theorem ContextStore.level_of_mem_snapshot {σ : Type} {S : Surface σ} {store : ContextStore}
    {active : FileSnapshot} {s s' : σ} {taken : ContextSnapshot} {warnings : List Event}
    (h : store.snapshot S active s = (taken, warnings, s')) : ∀ e ∈ warnings, e.level ≠ .error := by
  obtain ⟨-, hrest⟩ := Prod.mk.inj h
  obtain ⟨rfl, -⟩ := Prod.mk.inj hrest
  exact level_of_mem_readAll S _ s

theorem Session.level_of_mem_readAgain {σ : Type} (S : Surface σ) (active : FileSnapshot)
    (surface : σ) : ∀ e ∈ (readAgain S active surface).2.1, e.level ≠ .error := by
  rw [readAgain]
  rcases S.read active.path surface with ⟨e | content, surface'⟩
  · exact List.forall_mem_singleton.mpr (Event.level_warning_ne _)
  · exact fun e he ↦ absurd he List.not_mem_nil

namespace Turn

theorem level_of_mem_newFileWarnings (snapshot : ContextSnapshot) (files : List ProposedFile) :
    ∀ e ∈ newFileWarnings snapshot files, e.level ≠ .error := by
  intro e he
  obtain ⟨file, -, rfl⟩ := List.mem_map.mp he
  exact Event.level_warning_ne _

/-- What a reply becomes is reported. The event of an error that the backend reports names the
backend, the turn does not. -/
theorem reported_ofReply (active : FileSnapshot) (snapshot : ContextSnapshot) (reply : Reply) :
    Reported (ofReply active snapshot reply).2 [(ofReply active snapshot reply).1] := by
  cases reply with
  | explanation text => exact .nil
  | replaceFile content => exact .nil
  | explanationWithChanges why code => exact .nil
  | multiFileChange why files =>
    have hwarnings := level_of_mem_newFileWarnings snapshot files
    rw [ofReply]
    cases ChangeSet.ofChanges (files.map (changeOf snapshot)) with
    | ok changes => exact .of_no_error hwarnings (List.forall_mem_singleton.mpr rfl)
    | error e => exact .preceded hwarnings (.error ("Malformed backend reply: " ++ e.message))
  | backendError message =>
    refine .cons ⟨rfl, message, rfl, ?_⟩ .nil
    rw [Event.error, String.toList_append]
    exact (List.suffix_append _ _).isInfix
  | malformed reason => exact .error _

end Turn

/-! ## Calls -/

/-- A call that has to do with the conversation and does not empty it. -/
def Action.converses : Action → Bool
  | .clear | .apply .. => false
  | _ => true

namespace Session

variable {s : Session} {action : Action} {actions : List Action}

/-- The events of a call, in order. -/
def heard (s : Session) : Action → List Event
  | .submit S D text surface dispatcher => (s.submit S D text surface dispatcher).events
  | .reply S generation value surface => (s.onReply S generation value surface).2.1
  | .failure generation message => (s.onFailure generation message).2.1
  | .apply S turn surface => (s.applyAny S turn surface).2.1
  | .clear | .setModel _ | .addContextFile _ | .removeContextFile _ => []

def hearing (s : Session) : List Action → List Event
  | [] => []
  | action :: actions => s.heard action ++ (s.perform action).1.hearing actions

/-- What a call leaves of a log, and what its events tell of that. -/
structure Tells (before after : List Turn) (events : List Event) (added : List Turn) : Prop where
  /-- Loading marks at the end of the log make room for the turns that are added. -/
  adds : ∃ kept marks, before = kept ++ marks ∧ (∀ t ∈ marks, t.isLoading = true) ∧
    after = kept ++ added
  /-- There is at most one error among the turns that are added. -/
  count_le : added.countP Turn.isError ≤ 1
  /-- There are as many errors among the events. -/
  count_eq : Event.count .error events = added.countP Turn.isError
  /-- They report those among the turns. -/
  reported : Reported events added

theorem tells_append (before : List Turn) {events : List Event} {added : List Turn}
    (hcount : added.countP Turn.isError ≤ 1) (hreported : Reported events added) :
    Tells before (before ++ added) events added :=
  ⟨⟨before, [], (List.append_nil _).symm, nofun, rfl⟩, hcount, hreported.count_eq, hreported⟩

theorem tells_same (before : List Turn) {events : List Event}
    (h : ∀ e ∈ events, e.level ≠ .error) : Tells before before events [] := by
  have hreported : Reported events [] :=
    .of_no_error h fun t ht ↦ absurd ht List.not_mem_nil
  have htells : Tells before (before ++ []) events [] :=
    tells_append before (Nat.zero_le 1) hreported
  rwa [List.append_nil] at htells

theorem tells_nothing (before : List Turn) : Tells before before [] [] :=
  tells_same before fun _ he ↦ absurd he List.not_mem_nil

theorem tells_info (before : List Turn) (message : String) :
    Tells before before [.info message] [] :=
  tells_same before (List.forall_mem_singleton.mpr (Event.level_info_ne message))

theorem tells_answered (s : Session) {events : List Event} {turn : Turn}
    (h : Reported events [turn]) : Tells s.turns (s.answered turn).turns events [turn] := by
  obtain ⟨kept, marks, hturns, hmarks, hkept⟩ :=
    turns_removeLoading { s with inFlight := none }
  refine ⟨⟨kept, marks, hturns, hmarks, ?_⟩, List.countP_le_length, h.count_eq, h⟩
  rw [answered, turns_push, hkept]

theorem submit_tells {σ δ : Type} (S : Surface σ) (D : Dispatcher δ) (text : String) (s : Session)
    (surface : σ) (dispatcher : δ) :
    let r := s.submit S D text surface dispatcher
    ∃ added, Tells s.turns r.session.turns r.events added := by
  intro r
  have hend : Submission S D text s surface dispatcher r := submission ..
  generalize r = r at hend ⊢
  cases hend with
  | blank => exact ⟨[], tells_nothing s.turns⟩
  | busy f => exact ⟨[], tells_info s.turns _⟩
  | unasked message =>
    refine ⟨[.userInput (Text.trim text), .error message], ?_⟩
    rw [turns_push, turns_push, List.append_assoc]
    exact tells_append s.turns (Nat.le_refl 1) (.error message)
  | refused active snapshot warnings surface' message d hblank hidle hactive hsnapshot =>
    have hwarnings := ContextStore.level_of_mem_snapshot hsnapshot
    refine ⟨[.userInput (Text.trim text), .error ("Failed to send request: " ++ message)], ?_⟩
    rw [turns_push, turns_asking, List.append_assoc]
    refine tells_append s.turns (Nat.le_refl 1) ?_
    exact .preceded hwarnings (.error _)
  | accepted active snapshot warnings surface' d hblank hidle hactive hsnapshot =>
    have hwarnings := ContextStore.level_of_mem_snapshot hsnapshot
    refine ⟨[.userInput (Text.trim text), .loading s.options.loadingHint], ?_⟩
    rw [turns_waiting, turns_asking, List.append_assoc]
    refine tells_append s.turns (Nat.zero_le 1) (.of_no_error ?_ ?_)
    · refine List.forall_mem_append.mpr ⟨hwarnings, ?_⟩
      exact List.forall_mem_singleton.mpr (Event.level_info_ne _)
    · simp [Turn.isError]

theorem perform_tells (s : Session) (h : action.converses = true) :
    ∃ added, Tells s.turns (s.perform action).1.turns (s.heard action) added := by
  cases action with
  | submit S D text surface dispatcher => exact submit_tells S D text s surface dispatcher
  | reply S generation value surface =>
    rcases s.inFlight_or_stale generation with ⟨f, hflight, rfl⟩ | hstale
    · have hwarnings := level_of_mem_readAgain S f.active surface
      rcases hread : readAgain S f.active surface with ⟨live, reread, after⟩
      rw [hread] at hwarnings
      rw [perform, heard, onReply_of_inFlight hflight hread]
      refine ⟨_, tells_answered s ?_⟩
      exact .preceded hwarnings (Turn.reported_ofReply ..)
    · rw [perform, heard, onReply_of_stale hstale]
      exact ⟨[], tells_info s.turns _⟩
  | failure generation message =>
    rcases s.inFlight_or_stale generation with ⟨f, hflight, rfl⟩ | hstale
    · rw [perform, heard, onFailure_of_inFlight hflight]
      exact ⟨_, tells_answered s (.error message)⟩
    · rw [perform, heard, onFailure_of_stale hstale]
      exact ⟨[], tells_info s.turns _⟩
  | clear => exact absurd h Bool.false_ne_true
  | apply S turn surface => exact absurd h Bool.false_ne_true
  | setModel model =>
    rw [perform, setModel]
    cases Text.trimmed? model <;> exact ⟨[], tells_nothing s.turns⟩
  | addContextFile path =>
    rw [perform, addContextFile]
    cases Text.trimmed? path <;> exact ⟨[], tells_nothing s.turns⟩
  | removeContextFile path => exact ⟨[], tells_nothing s.turns⟩

/-! ## Runs -/

/-- What a call removes from a log are marks, so its errors only grow. -/
theorem Tells.errors_eq {before after added : List Turn} {events : List Event}
    (h : Tells before after events added) :
    Turn.errors after = Turn.errors before ++ Turn.errors added := by
  obtain ⟨kept, marks, rfl, hmarks, rfl⟩ := h.adds
  have hnone : Turn.errors marks = [] := Turn.errors_eq_nil fun t ht ↦
    Turn.isError_of_isLoading (hmarks t ht)
  rw [Turn.errors_append, Turn.errors_append, hnone, List.append_nil]

theorem run_tells (s : Session) (h : ∀ action ∈ actions, action.converses = true) :
    ∃ new, Turn.errors (s.run actions).1.turns = Turn.errors s.turns ++ new ∧
      List.Forall₂ Event.Reports (Event.errors (s.hearing actions)) new := by
  induction actions generalizing s with
  | nil => exact ⟨[], (List.append_nil _).symm, .nil⟩
  | cons action actions ih =>
    obtain ⟨hfirst, hrest⟩ := List.forall_mem_cons.mp h
    obtain ⟨added, htells⟩ := s.perform_tells hfirst
    obtain ⟨new, hnew, hreported⟩ := ih (s.perform action).1 hrest
    refine ⟨Turn.errors added ++ new, ?_, ?_⟩
    · rw [← List.append_assoc, ← htells.errors_eq]
      exact hnew
    · rw [hearing, Event.errors_append]
      exact List.rel_append htells.reported hreported

/-- **Every error is reported once**, from every session on and whatever surfaces, dispatchers and
replies do. A call adds no error to the log or one, and has as many errors among its events. Over a
row of calls in which the log is not cleared, the errors among the events report those that have
been added to the log, one by one and in the same order. -/
theorem errors_reported (s : Session) :
    (∀ action : Action, action.converses = true →
      ∃ added, Tells s.turns (s.perform action).1.turns (s.heard action) added) ∧
    ∀ actions : List Action, (∀ action ∈ actions, action.converses = true) →
      ∃ new, Turn.errors (s.run actions).1.turns = Turn.errors s.turns ++ new ∧
        List.Forall₂ Event.Reports (Event.errors (s.hearing actions)) new :=
  ⟨fun _ h ↦ s.perform_tells h, fun _ h ↦ s.run_tells h⟩

/-- A request fails, the next one is answered by an error, and then no file is active. -/
theorem errors_reported_thrice :
    let files : MemoryFiles := { files := [("a.py", "x\n")], focus := some "a.py" }
    let value : Json := .object [("message", .string "too long"), ("type", .string "error")]
    let actions : List Action := [
      .submit MemoryFiles.surface .accepting "one" files (), .failure 1 "timeout",
      .submit MemoryFiles.surface .accepting "two" files (),
      .reply MemoryFiles.surface 2 value files,
      .submit MemoryFiles.surface .accepting "three" { files with focus := none } ()]
    let s := ofOptions {}
    let missing := "No active file. Open a file before asking for changes."
    let told : List Event :=
      [.error "timeout", .error "Backend reported an error: too long", .error missing]
    let logged : List Turn := [.error "timeout", .error "too long", .error missing]
    Event.errors (s.hearing actions) = told ∧ Turn.errors (s.run actions).1.turns = logged ∧
      List.Forall₂ Event.Reports told logged := by
  intro files value actions s missing told logged
  have htold : Event.errors (s.hearing actions) = told := by decide +kernel
  have hlogged : Turn.errors (s.run actions).1.turns = logged := by decide +kernel
  have hconverses : ∀ action ∈ actions, action.converses = true := by
    simp [actions, Action.converses]
  obtain ⟨new, hnew, hreported⟩ := (errors_reported s).2 actions hconverses
  have hlog : logged = new := hlogged.symm.trans hnew
  rw [htold, ← hlog] at hreported
  exact ⟨htold, hlogged, hreported⟩

end Session

end Redline
