import Redline.Proofs.Session.Submission
import Redline.Proofs.Surface.Watched

/-!
# What a request carries

A request is gathered from three places: the prompt and the model are the session's own, the active
file is what the surface answers, and the context files are read one after another. A context file
that cannot be read is left out and named in a warning, and gathering goes on with the next.

The session keeps what it has gathered until the reply comes. That this is what the request carries
is seen by watching both sides of a submission, the surface for what it is asked and answers, and
the dispatcher for what it is handed.
-/

namespace Redline

open Redline.Text

/-! ## The dispatcher's side -/

namespace Dispatcher

variable {δ : Type}

/-- A dispatcher that is watched for requests: its states hold those that it was handed so far, each
under its generation. -/
def noting (D : Dispatcher δ) : Dispatcher (δ × List (Generation × Request)) where
  dispatch generation request state :=
    let (answer, dispatcher) := D.dispatch generation request state.1
    (answer, dispatcher, state.2 ++ [(generation, request)])

theorem dispatch_noting {D : Dispatcher δ} {generation : Generation} {request : Request}
    {dispatcher dispatcher' : δ} {answer : Except String Unit}
    (h : D.dispatch generation request dispatcher = (answer, dispatcher'))
    (notes : List (Generation × Request)) :
    D.noting.dispatch generation request (dispatcher, notes) =
      (answer, dispatcher', notes ++ [(generation, request)]) := by
  obtain ⟨rfl, rfl⟩ := Prod.mk.inj h
  rfl

end Dispatcher

/-! ## Context files -/

namespace ContextStore

variable {σ : Type} {paths : List String} {answers : List (Except SurfaceError String)}
  {files : List FileSnapshot} {warnings : List Event}

/-- What is collected of files, given the answers to reading them: the contents of those that can be
read, and a warning for each of the others. -/
inductive Collected :
    List String → List (Except SurfaceError String) → List FileSnapshot → List Event → Prop
  | nil : Collected [] [] [] []
  /-- A file can be read. -/
  | readable {paths : List String} {answers : List (Except SurfaceError String)}
    {files : List FileSnapshot} {warnings : List Event} (path content : String) :
    Collected paths answers files warnings →
    Collected (path :: paths) (.ok content :: answers) (⟨path, content⟩ :: files) warnings
  /-- A file cannot be read. -/
  | skipped {paths : List String} {answers : List (Except SurfaceError String)}
    {files : List FileSnapshot} {warnings : List Event} (path : String) (e : SurfaceError) :
    Collected paths answers files warnings →
    Collected (path :: paths) (.error e :: answers) files
      (.warning ("Skipping context file " ++ path ++ ": " ++ e.message) :: warnings)

theorem readAll_collected (S : Surface σ) (paths : List String) (s : σ) :
    Collected paths (S.readEach paths s).1 (readAll S paths s).1 (readAll S paths s).2.1 := by
  induction paths generalizing s with
  | nil => exact .nil
  | cons path paths ih =>
    rw [S.readEach_cons, readAll]
    have hrest := ih (S.read path s).2
    rcases hread : S.read path s with ⟨e | content, s'⟩
    · rw [hread] at hrest
      exact .skipped path e hrest
    · rw [hread] at hrest
      exact .readable path content hrest

theorem readAll_watched (S : Surface σ) (paths : List String) (s : σ) (log : List Access) :
    readAll S.watched paths (s, log) =
      ((readAll S paths s).1, (readAll S paths s).2.1, (readAll S paths s).2.2,
        log ++ List.zipWith .read paths (S.readEach paths s).1) := by
  induction paths generalizing s log with
  | nil => rw [S.readEach_nil, List.zipWith_nil_left, List.append_nil, readAll, readAll]
  | cons path paths ih =>
    rw [readAll, readAll, S.readEach_cons, List.zipWith_cons_cons]
    rcases hread : S.read path s with ⟨_ | _, s'⟩
    · have hwatched : S.watched.read path (s, log) = (_, s', log ++ [.read path _]) :=
        Surface.read_watched hread log
      simp only [hwatched, ih, List.append_assoc, List.singleton_append]
    · have hwatched : S.watched.read path (s, log) = (_, s', log ++ [.read path _]) :=
        Surface.read_watched hread log
      simp only [hwatched, ih, List.append_assoc, List.singleton_append]

/-- The tracked paths that are read beside an active file, in the order in which they were added. -/
def besides (store : ContextStore) (active : FileSnapshot) : List String :=
  store.paths.filter fun p ↦ p != normalizePath active.path

/-- A snapshot is the active file with what is collected of the others, and taking it is that row of
reads. -/
theorem snapshot_watched {S : Surface σ} {store : ContextStore} {active : FileSnapshot} {s s' : σ}
    {taken : ContextSnapshot} (h : store.snapshot S active s = (taken, warnings, s'))
    (log : List Access) :
    taken.active = active ∧ ∃ answers,
      Collected (store.besides active) answers taken.files warnings ∧
      store.snapshot S.watched active (s, log) =
        (taken, warnings, s', log ++ List.zipWith .read (store.besides active) answers) := by
  obtain ⟨rfl, hrest⟩ := Prod.mk.inj h
  obtain ⟨rfl, rfl⟩ := Prod.mk.inj hrest
  refine ⟨rfl, _, readAll_collected S (store.besides active) s, ?_⟩
  rw [snapshot]
  have hread := readAll_watched S (store.besides active) s log
  rw [besides] at hread
  rw [hread]
  rfl

end ContextStore

/-! ## Requests -/

namespace Session

variable {σ δ : Type}

theorem submit_eq_noting (S : Surface σ) (D : Dispatcher δ) (text : String) (s : Session)
    (surface : σ) (dispatcher : δ) :
    let r := s.submit S D.noting text surface (dispatcher, [])
    s.submit S D text surface dispatcher =
      ⟨r.outcome, r.events, r.session, r.surface, r.dispatcher.1⟩ :=
  submit_view D D.noting Prod.fst (fun _ _ _ ↦ rfl) S text s surface (dispatcher, [])

/-- A text leads to a request: it is not blank, no request is under way, and the surface answers
with an active file that may be asked about. -/
def Ready (s : Session) (S : Surface σ) (text : String) (surface : σ) : Prop :=
  isBlankText text = false ∧ s.inFlight = none ∧
    ∃ active, (S.active surface).1 = .ok (some active) ∧ s.options.accepts active.path = true

theorem checkActive_eq_ok_iff {options : SessionOptions}
    {answer : Except SurfaceError (Option FileSnapshot)} {active : FileSnapshot} :
    checkActive options answer = .ok active ↔
      answer = .ok (some active) ∧ options.accepts active.path = true := by
  match answer with
  | .error e => exact iff_of_false nofun fun h ↦ absurd h.1 nofun
  | .ok none => exact iff_of_false nofun fun h ↦ absurd h.1 nofun
  | .ok (some file) =>
    rw [checkActive]
    by_cases haccepted : options.accepts file.path = true
    · rw [if_pos haccepted]
      constructor
      · intro h
        obtain rfl := Except.ok.inj h
        exact ⟨rfl, haccepted⟩
      · rintro ⟨h, -⟩
        rw [Option.some.inj (Except.ok.inj h)]
    · rw [if_neg haccepted]
      refine iff_of_false nofun ?_
      rintro ⟨h, haccepts⟩
      exact haccepted (Option.some.inj (Except.ok.inj h) ▸ haccepts)

theorem not_ready_of_error {s : Session} {S : Surface σ} {surface : σ} {message : String}
    (h : checkActive s.options (S.active surface).1 = .error message) (text : String) :
    ¬s.Ready S text surface := by
  rintro ⟨-, -, active, hactive⟩
  exact absurd (h.symm.trans (checkActive_eq_ok_iff.mpr hactive)) nofun

/-- What the files of a request are gathered by: the surface is asked for the active file, and then
the other tracked files are read. The context files are those that can be read, and there is one
warning for each that cannot. -/
def Gathered (s : Session) (request : Request) (accesses : List Access) (warnings : List Event) :
    Prop :=
  ∃ answers, accesses = .active (.ok (some request.active)) ::
      List.zipWith .read (s.context.besides request.active) answers ∧
    ContextStore.Collected (s.context.besides request.active) answers request.context warnings

/-- What a request carries, given what was done to the surface for it, what the dispatcher answered
to it and what its submission has left behind. -/
structure Carries (s : Session) (text : String) (request : Request) (accesses : List Access)
    (answer : Except String Unit) (r : Submitted σ δ) : Prop where
  prompt_eq : request.prompt = trim text
  model_eq : request.model = s.model
  /-- The files are gathered from the surface, and nothing else is warned about. -/
  gathered : ∃ warnings last, s.Gathered request accesses warnings ∧
    r.events = warnings ++ [last] ∧ last.level ≠ .warning
  /-- An accepted request is under way, and what is kept for its reply is what it carries. -/
  kept : answer = .ok () → r.outcome = .dispatched (s.lastGeneration + 1) ∧
    r.session.inFlight = some ⟨s.lastGeneration + 1, request.active,
      ⟨request.active, request.context⟩⟩
  /-- Nothing is kept for a request that is refused. -/
  refused : ∀ message, answer = .error message →
    r.outcome = .rejected ∧ r.session.inFlight = none

theorem exists_gathered {s : Session} {S : Surface σ} {surface surface' : σ} {active : FileSnapshot}
    {snapshot : ContextSnapshot} {warnings : List Event}
    (hactive : (S.active surface).1 = .ok (some active))
    (hsnapshot : s.context.snapshot S active (S.active surface).2 = (snapshot, warnings, surface'))
    (prompt : String) (log : List Access) :
    snapshot.active = active ∧ ∃ accesses,
      s.Gathered (s.requestFor prompt active snapshot) accesses warnings ∧
      s.context.snapshot S.watched active
          ((S.active surface).2, log ++ [.active (S.active surface).1]) =
        (snapshot, warnings, surface', log ++ accesses) := by
  obtain ⟨hsame, answers, hcollected, hwatched⟩ :=
    ContextStore.snapshot_watched hsnapshot (log ++ [.active (S.active surface).1])
  refine ⟨hsame, _, ⟨answers, rfl, hcollected⟩, ?_⟩
  rw [hwatched, hactive, List.append_assoc]
  rfl

/-- Watched or not, a text that leads to a request has its files gathered, and the dispatcher is
handed the request with them. -/
theorem submit_gathered {S : Surface σ} {text : String} {s : Session}
    {surface surface' : σ} {active : FileSnapshot} {snapshot : ContextSnapshot}
    {warnings : List Event} (hblank : isBlankText text = false) (hidle : s.inFlight = none)
    (hactive : checkActive s.options (S.active surface).1 = .ok active)
    (hsnapshot : s.context.snapshot S active (S.active surface).2 = (snapshot, warnings, surface'))
    (D : Dispatcher δ) (dispatcher : δ) (log : List Access)
    (notes : List (Generation × Request)) :
    let r := s.submit S D text surface dispatcher
    snapshot.active = active ∧ ∃ accesses,
      s.Gathered (s.requestFor (trim text) active snapshot) accesses warnings ∧
      s.submit S.watched D.noting text (surface, log) (dispatcher, notes) =
        ⟨r.outcome, r.events, r.session, (r.surface, log ++ accesses), (r.dispatcher,
          notes ++ [(s.lastGeneration + 1, s.requestFor (trim text) active snapshot)])⟩ := by
  obtain ⟨hfocus, -⟩ := checkActive_eq_ok_iff.mp hactive
  obtain ⟨hsame, accesses, hgathered, hwatched⟩ := exists_gathered hfocus hsnapshot (trim text) log
  refine ⟨hsame, accesses, hgathered, ?_⟩
  have hseen : S.watched.active (surface, log) = (_, _, log ++ [.active _]) :=
    Surface.active_watched rfl log
  rcases hanswer : D.dispatch (s.lastGeneration + 1) (s.requestFor (trim text) active snapshot)
    dispatcher with ⟨_ | _, dispatcher'⟩
  all_goals
    have hasked := Dispatcher.dispatch_noting hanswer notes
    rw [requestFor] at hanswer hasked
    simp only [submit, trimmed?, hblank, Bool.false_eq_true, if_false, hidle, hseen, hactive,
      hsnapshot, hwatched, hanswer, hasked]
    rfl

theorem carries_refused {s : Session} {text message : String} {snapshot : ContextSnapshot}
    {accesses : List Access} {warnings : List Event} {surface' : σ} {dispatcher' : δ}
    (hidle : s.inFlight = none)
    (hgathered : s.Gathered (s.requestFor (trim text) snapshot.active snapshot) accesses warnings) :
    s.Carries text (s.requestFor (trim text) snapshot.active snapshot) accesses (.error message)
      ⟨.rejected, warnings ++ [.error ("Failed to send request: " ++ message)],
        (s.asking (trim text)).push (.error ("Failed to send request: " ++ message)), surface',
        dispatcher'⟩ where
  prompt_eq := rfl
  model_eq := rfl
  gathered := ⟨warnings, _, hgathered, rfl, nofun⟩
  kept := nofun
  refused := fun _ _ ↦ ⟨rfl, hidle⟩

theorem carries_accepted {s : Session} {text hint : String} {snapshot : ContextSnapshot}
    {accesses : List Access} {warnings : List Event} {surface' : σ} {dispatcher' : δ}
    (hgathered : s.Gathered (s.requestFor (trim text) snapshot.active snapshot) accesses warnings) :
    s.Carries text (s.requestFor (trim text) snapshot.active snapshot) accesses (.ok ())
      ⟨.dispatched (s.lastGeneration + 1), warnings ++ [.info ("Dispatched request " ++
        toString (s.lastGeneration + 1) ++ " with model " ++ s.model)],
        (s.asking (trim text)).waiting hint snapshot.active snapshot, surface', dispatcher'⟩ where
  prompt_eq := rfl
  model_eq := rfl
  gathered := ⟨warnings, _, hgathered, rfl, nofun⟩
  kept := fun _ ↦ ⟨rfl, rfl⟩
  refused := nofun

/-- **A submission hands over what it has gathered.** The dispatcher is called exactly for a text
that leads to a request, and then once, whatever can be read of the context files. -/
theorem submit_carries (S : Surface σ) (D : Dispatcher δ) (text : String) (s : Session)
    (surface : σ) (dispatcher : δ) (log : List Access) (notes : List (Generation × Request)) :
    let r := s.submit S D text surface dispatcher
    ∃ accesses asked,
      s.submit S.watched D.noting text (surface, log) (dispatcher, notes) =
        ⟨r.outcome, r.events, r.session, (r.surface, log ++ accesses),
          (r.dispatcher, notes ++ asked)⟩ ∧
      ((¬s.Ready S text surface ∧ asked = []) ∨
        (s.Ready S text surface ∧ ∃ request, asked = [(s.lastGeneration + 1, request)] ∧
          s.Carries text request accesses
            (D.dispatch (s.lastGeneration + 1) request dispatcher).1 r)) := by
  intro r
  have hr : s.submit S D text surface dispatcher = r := rfl
  have hend : Submission S D text s surface dispatcher r := submission ..
  clear_value r
  cases hend with
  | blank hblank =>
    refine ⟨[], [], ?_, .inl ⟨?_, rfl⟩⟩
    · simp only [submit, trimmed?, hblank, if_true, List.append_nil]
    · exact fun hready ↦ absurd (hready.1.symm.trans hblank) Bool.false_ne_true
  | busy f hblank hflight =>
    refine ⟨[], [], ?_, .inl ⟨?_, rfl⟩⟩
    · simp only [submit, trimmed?, hblank, Bool.false_eq_true, if_false, hflight, List.append_nil]
    · exact fun hready ↦ absurd (hflight.symm.trans hready.2.1) (Option.some_ne_none f)
  | unasked message hblank hidle hactive =>
    refine ⟨[.active (S.active surface).1], [], ?_, .inl ⟨not_ready_of_error hactive text, rfl⟩⟩
    have hseen : S.watched.active (surface, log) = (_, _, log ++ [.active _]) :=
      Surface.active_watched rfl log
    simp only [submit, trimmed?, hblank, Bool.false_eq_true, if_false, hidle, hseen, hactive,
      List.append_nil]
  | refused active snapshot warnings surface' message d hblank hidle hactive hsnapshot hanswer =>
    obtain ⟨rfl, accesses, hgathered, hsubmit⟩ :=
      submit_gathered hblank hidle hactive hsnapshot D dispatcher log notes
    rw [hr] at hsubmit
    refine ⟨accesses, _, hsubmit, .inr ⟨?_, _, rfl, ?_⟩⟩
    · exact ⟨hblank, hidle, snapshot.active, checkActive_eq_ok_iff.mp hactive⟩
    · rw [hanswer]
      exact carries_refused hidle hgathered
  | accepted active snapshot warnings surface' d hblank hidle hactive hsnapshot hanswer =>
    obtain ⟨rfl, accesses, hgathered, hsubmit⟩ :=
      submit_gathered hblank hidle hactive hsnapshot D dispatcher log notes
    rw [hr] at hsubmit
    refine ⟨accesses, _, hsubmit, .inr ⟨?_, _, rfl, ?_⟩⟩
    · exact ⟨hblank, hidle, snapshot.active, checkActive_eq_ok_iff.mp hactive⟩
    · rw [hanswer]
      exact carries_accepted hgathered

end Session

end Redline
