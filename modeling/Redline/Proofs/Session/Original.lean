import Redline.Proofs.Session.Gathered
import Redline.Proofs.Session.Outcomes
import Redline.Proofs.Session.Proposal

/-!
# The originals of a proposal

A reply is taken long after its request was made. In between files may be edited, context files may
be dropped, and another file may be focused. What a proposal is compared with is then of two ages:
the file that was active for the request is read once more, and everything else is as it was when
the request was made.

A run tells which request that was, by the generation under which it was handed over. From there on
the session keeps what the request carries, whatever happens, until an outcome is taken or the
conversation is cleared.
-/

namespace Redline

open Redline.Text

namespace Session

variable {s s' : Session} {action : Action} {actions : List Action} {records : List Record}
  {g : Generation} {f : InFlight} {request : Request}

/-! ## Requests under way -/

/-- A call makes a session hand over a request under a generation, and it is accepted. -/
inductive Dispatches (s : Session) : Action → Generation → Request → Prop
  | intro {σ δ : Type} (S : Surface σ) (D : Dispatcher δ) (text : String) (surface : σ)
    (dispatcher : δ) {g : Generation} {request : Request} :
    (s.submit S D.noting text surface (dispatcher, [])).outcome = .dispatched g →
    (s.submit S D.noting text surface (dispatcher, [])).dispatcher.2 = [(g, request)] →
    Dispatches s (.submit S D text surface dispatcher) g request

/-- Somewhere in a run a request is handed over under a generation, and it is accepted. -/
inductive RunDispatches : Session → List Action → Generation → Request → Prop
  /-- The first call makes the session hand it over. -/
  | here {s : Session} {action : Action} {actions : List Action} {g : Generation}
    {request : Request} :
    s.Dispatches action g request → RunDispatches s (action :: actions) g request
  /-- It is handed over later. -/
  | later {s : Session} {action : Action} {actions : List Action} {g : Generation}
    {request : Request} :
    RunDispatches (s.perform action).1 actions g request →
    RunDispatches s (action :: actions) g request

/-- What a session keeps of a request under way. -/
def awaited (g : Generation) (request : Request) : InFlight :=
  ⟨g, request.active, ⟨request.active, request.context⟩⟩

theorem submit_noting {σ δ : Type} (S : Surface σ) (D : Dispatcher δ) (text : String) (s : Session)
    (surface : σ) (dispatcher : δ) :
    (s.submit S D.noting text surface (dispatcher, [])).session =
      (s.submit S D text surface dispatcher).session :=
  (congrArg Submitted.session (submit_eq_noting S D text s surface dispatcher)).symm

theorem Dispatches.inFlight_eq (h : s.Dispatches action g request) :
    (s.perform action).1.inFlight = some (awaited g request) ∧
      (s.perform action).1.lastGeneration = g := by
  obtain ⟨S, D, text, surface, dispatcher, houtcome, hnotes⟩ := h
  rw [perform, ← submit_noting]
  have hend := submission S D.noting text s surface (dispatcher, [])
  generalize s.submit S D.noting text surface (dispatcher, []) = r at hend houtcome hnotes ⊢
  cases hend with
  | accepted active snapshot warnings surface' d hblank hidle hactive hsnapshot hanswer =>
    obtain rfl := SubmitOutcome.dispatched.inj houtcome
    have hrequest : [(_, s.requestFor (trim text) active snapshot)] = d.2 :=
      congrArg (fun r ↦ r.2.2) hanswer
    rw [hnotes, List.singleton_inj, Prod.mk.injEq] at hrequest
    obtain rfl : snapshot.active = active := congrArg (fun r ↦ r.1.active) hsnapshot.symm
    rw [inFlight_waiting, ← hrequest.2]
    exact ⟨rfl, rfl⟩
  | _ => cases houtcome

theorem Effect.inFlight_cases (h : Effect s s' records) (hflight : s'.inFlight = some f) :
    s.inFlight = some f ∨
      f.generation = s.lastGeneration + 1 ∧ records = [.asked f.generation true] := by
  cases h with
  | kept hturns hsame hgeneration => exact .inl (hsame.symm.trans hflight)
  | unasked | refused | stale => exact .inl hflight
  | accepted prompt hint active snapshot hidle =>
    rw [inFlight_waiting, Option.some.injEq] at hflight
    subst hflight
    exact .inr ⟨rfl, rfl⟩
  | taken f' turn hbefore houtcome =>
    rw [inFlight_answered] at hflight
    exact absurd hflight nofun
  | cleared => exact absurd hflight nofun

theorem dispatches_of_inFlight (h : (s.perform action).1.inFlight = some f) :
    s.inFlight = some f ∨ ∃ request, s.Dispatches action f.generation request := by
  by_cases hsubmit : action.isSubmit
  · cases action with
    | submit S D text surface dispatcher =>
      rw [perform, ← submit_noting] at h
      have hend := submission S D.noting text s surface (dispatcher, [])
      have hcall := @Dispatches.intro s _ _ S D text surface dispatcher
      generalize s.submit S D.noting text surface (dispatcher, []) = r at hend h hcall
      cases hend with
      | accepted active snapshot warnings surface' d hblank hidle hactive hsnapshot hanswer =>
        rw [inFlight_waiting, Option.some.injEq] at h
        subst h
        exact .inr ⟨_, hcall rfl (congrArg (fun r ↦ r.2.2) hanswer).symm⟩
      | _ => exact .inl h
    | _ => exact absurd hsubmit Bool.false_ne_true
  · have hnone := s.generations_perform (Bool.eq_false_iff.mpr hsubmit)
    rcases (s.perform_effect action).inFlight_cases h with hbefore | ⟨-, hasked⟩
    · exact .inl hbefore
    · rw [hasked] at hnone
      exact absurd hnone (List.cons_ne_nil _ _)

theorem runDispatches_of_inFlight (h : (s.run actions).1.inFlight = some f) :
    s.inFlight = some f ∨ ∃ request, s.RunDispatches actions f.generation request := by
  induction actions generalizing s with
  | nil => exact .inl h
  | cons action actions ih =>
    rcases ih h with hflight | ⟨request, hlater⟩
    · rcases dispatches_of_inFlight hflight with hbefore | ⟨request, hhere⟩
      · exact .inl hbefore
      · exact .inr ⟨request, .here hhere⟩
    · exact .inr ⟨request, .later hlater⟩

/-- A request under way at the end of a run whose generation is not new was under way before. -/
theorem inFlight_eq_of_run (hflight : (s.run actions).1.inFlight = some f)
    (hg : f.generation ≤ s.lastGeneration) : s.inFlight = some f := by
  induction actions generalizing s with
  | nil => exact hflight
  | cons action actions ih =>
    have heffect := s.perform_effect action
    have hgrows : s.lastGeneration ≤ (s.perform action).1.lastGeneration :=
      heffect.lastGeneration_eq.1 ▸ Nat.le_add_right _ _
    rcases heffect.inFlight_cases (ih hflight (Nat.le_trans hg hgrows)) with hbefore | ⟨hnew, -⟩
    · exact hbefore
    · exact absurd (hnew ▸ hg) (Nat.not_succ_le_self _)

/-- What is under way is the request that was handed over under its generation. -/
theorem RunDispatches.eq_awaited (h : s.RunDispatches actions f.generation request)
    (hflight : (s.run actions).1.inFlight = some f) : f = awaited f.generation request := by
  generalize hg : f.generation = g at h
  induction h with
  | here hhere =>
    obtain ⟨hafter, hlast⟩ := hhere.inFlight_eq
    subst hg
    rw [run] at hflight
    have hsame := inFlight_eq_of_run hflight (Nat.le_of_eq hlast.symm)
    exact Option.some.inj (hsame.symm.trans hafter)
  | later _ ih => exact ih hflight hg

/-! ## Originals -/

variable {σ : Type}

/-- The content of the active file that a reply is compared with, given the answer to reading it
again, and what is warned about. -/
inductive Live (request : Request) : Except SurfaceError String → String → List Event → Prop
  /-- It is what is read. -/
  | read (content : String) : Live request (.ok content) content []
  /-- It is what the request carries, with one warning. -/
  | unread (e : SurfaceError) (message : String) :
    Live request (.error e) request.active.content [.warning message]

/-- The active file is read once more, and the surface is asked nothing else. -/
theorem exists_live (request : Request) (S : Surface σ) (surface : σ) (log : List Access) :
    let (answer, after) := S.read request.active.path surface
    ∃ live warnings, Live request answer live warnings ∧
      readAgain S request.active surface = (⟨request.active.path, live⟩, warnings, after) ∧
      readAgain S.watched request.active (surface, log) =
        (⟨request.active.path, live⟩, warnings, after,
          log ++ [.read request.active.path answer]) := by
  rw [readAgain, readAgain]
  rcases hread : S.read request.active.path surface with ⟨e | content, after⟩
  · rw [Surface.read_watched hread log]
    exact ⟨_, _, .unread e _, rfl, rfl⟩
  · rw [Surface.read_watched hread log]
    exact ⟨_, _, .read content, rfl, rfl⟩

/-- The original of a path among what a request carries, with another content of the active file, if
there is one. Paths are compared by their normal forms. -/
inductive Original (request : Request) (live path : String) : Option String → Prop
  /-- The path is that of the active file. -/
  | active : normalizePath request.active.path = normalizePath path →
    Original request live path (some live)
  /-- The path is that of a context file, and of none before it. -/
  | captured {front back : List FileSnapshot} (file : FileSnapshot) :
    normalizePath request.active.path ≠ normalizePath path →
    request.context = front ++ file :: back →
    (∀ other ∈ front, normalizePath other.path ≠ normalizePath path) →
    normalizePath file.path = normalizePath path →
    Original request live path (some file.content)
  /-- The path is that of no file. -/
  | unknown : normalizePath request.active.path ≠ normalizePath path →
    (∀ other ∈ request.context, normalizePath other.path ≠ normalizePath path) →
    Original request live path none

def refreshed (request : Request) (live : String) : ContextSnapshot :=
  ⟨⟨request.active.path, live⟩, request.context⟩

theorem original_lookup? (request : Request) (live path : String) :
    Original request live path ((refreshed request live).lookup? path) := by
  rw [ContextSnapshot.lookup?]
  by_cases hactive : normalizePath request.active.path = normalizePath path
  · rw [refreshed, if_pos hactive]
    exact .active hactive
  · rw [refreshed, if_neg hactive]
    cases hfind : request.context.find? fun f ↦ normalizePath f.path == normalizePath path with
    | none =>
      refine .unknown hactive fun other hother ↦ ?_
      have hother := List.find?_eq_none.mp hfind other hother
      exact beq_eq_false_iff_ne.mp (Bool.eq_false_iff.mpr hother)
    | some file =>
      obtain ⟨hfile, front, back, hsplit, hfront⟩ := List.find?_eq_some_iff_append.mp hfind
      refine .captured file hactive hsplit (fun other hother ↦ ?_) (beq_iff_eq.mp hfile)
      simpa using hfront other hother

/-- The changes that stand for proposed files, each against its original, and what is warned about:
a file without an original is compared with the empty text. -/
inductive Entries (request : Request) (live : String) :
    List ProposedFile → List FileChange → List Event → Prop
  | nil : Entries request live [] [] []
  /-- A file has an original. -/
  | known {files : List ProposedFile} {changes : List FileChange} {warnings : List Event}
    (file : ProposedFile) {base : String} : Original request live file.path (some base) →
    Entries request live files changes warnings →
    Entries request live (file :: files) (⟨file.path, base, file.content⟩ :: changes) warnings
  /-- A file has no original. -/
  | new {files : List ProposedFile} {changes : List FileChange} {warnings : List Event}
    (file : ProposedFile) : Original request live file.path none →
    Entries request live files changes warnings →
    Entries request live (file :: files) (⟨file.path, "", file.content⟩ :: changes)
      (Turn.newFileWarning file.path :: warnings)

theorem entries_changeOf (request : Request) (live : String) (files : List ProposedFile) :
    Entries request live files (files.map (Turn.changeOf (refreshed request live)))
      (Turn.newFileWarnings (refreshed request live) files) := by
  induction files with
  | nil => exact .nil
  | cons file files ih =>
    have horiginal := original_lookup? request live file.path
    rw [List.map_cons, Turn.changeOf, Turn.newFileWarnings, List.filter_cons]
    cases hlookup : (refreshed request live).lookup? file.path with
    | none =>
      rw [hlookup] at horiginal
      exact .new file horiginal ih
    | some base =>
      rw [hlookup] at horiginal
      exact .known file horiginal ih

/-! ## Proposals -/

/-- The turn that a reply becomes, with what it is compared with, and the events on the way. -/
inductive Proposed (request : Request) (live : String) : Reply → Turn → List Event → Prop
  /-- A content for the active file is compared with its live content. -/
  | replaceFile (content : String) {changes : ChangeSet} :
    changes.changes = [⟨request.active.path, live, content⟩] →
    Proposed request live (.replaceFile content) (.replaceFile changes) []
  /-- So is one that is explained. -/
  | explained (why content : String) {changes : ChangeSet} :
    changes.changes = [⟨request.active.path, live, content⟩] →
    Proposed request live (.explanationWithChanges why content)
      (.explanationWithChanges why changes) []
  /-- Contents for several files are compared with their originals. -/
  | several (why : String) {files : List ProposedFile} {changes : ChangeSet}
    {warnings : List Event} : Entries request live files changes.changes warnings →
    Proposed request live (.multiFileChange why files) (.multiFileChange why changes) warnings
  /-- Any other reply proposes nothing, and nothing is warned about. -/
  | none {reply : Reply} {turn : Turn} {events : List Event} : reply.proposesChanges = false →
    turn.changeSet? = none → (∀ e ∈ events, e.level ≠ .warning) →
    Proposed request live reply turn events

theorem proposed_ofReply (request : Request) (live : String) (value : Json) :
    let r := Turn.ofReply ⟨request.active.path, live⟩ (refreshed request live)
      (Reply.classify value)
    Proposed request live (Reply.classify value) r.1 r.2 := by
  intro r
  have hr : r = Turn.ofReply _ _ (Reply.classify value) := rfl
  clear_value r
  cases hreply : Reply.classify value with
  | explanation text =>
    rw [hr, hreply]
    exact .none rfl rfl nofun
  | replaceFile content =>
    rw [hr, hreply]
    exact .replaceFile content rfl
  | explanationWithChanges why content =>
    rw [hr, hreply]
    exact .explained why content rfl
  | multiFileChange why files =>
    have hvalid := Reply.validChanges_of_classify hreply
    obtain ⟨changes, hchanges, hturn⟩ := Turn.exists_ofReply_eq hvalid
      ⟨request.active.path, live⟩ (refreshed request live) why
    rw [hr, hreply, hturn]
    refine .several why ?_
    rw [ChangeSet.changes_of_ofChanges hchanges]
    exact entries_changeOf request live files
  | backendError message =>
    rw [hr, hreply]
    exact .none rfl rfl (List.forall_mem_singleton.mpr nofun)
  | malformed reason =>
    rw [hr, hreply]
    exact .none rfl rfl (List.forall_mem_singleton.mpr nofun)

/-- **What a proposal is compared with.** Every request under way was handed over in the run, and
the reply to it is compared with what that request carries, except that the active file is read once
more. Nothing else is asked of the surface when the reply is taken. -/
theorem run_reply_originals (options : SessionOptions) (actions : List Action)
    (hflight : ((ofOptions options).run actions).1.inFlight = some f) :
    (∃ request, (ofOptions options).RunDispatches actions f.generation request) ∧
    ∀ request, (ofOptions options).RunDispatches actions f.generation request →
      ∀ {σ : Type} (S : Surface σ) (value : Json) (surface : σ) (log : List Access),
        let s := ((ofOptions options).run actions).1
        let (answer, after) := S.read request.active.path surface
        ∃ live reread turn events, Live request answer live reread ∧
          Proposed request live (Reply.classify value) turn events ∧
          s.onReply S f.generation value surface =
            (true, reread ++ events, s.answered turn, after) ∧
          s.onReply S.watched f.generation value (surface, log) =
            (true, reread ++ events, s.answered turn, after,
              log ++ [.read request.active.path answer]) := by
  refine ⟨?_, fun request hrequest σ S value surface log ↦ ?_⟩
  · exact (runDispatches_of_inFlight hflight).resolve_left nofun
  · have hawaited := hrequest.eq_awaited hflight
    obtain ⟨live, reread, hlive, hread, hwatched⟩ := exists_live request S surface log
    have hproposed := proposed_ofReply request live value
    refine ⟨live, reread, _, _, hlive, hproposed, ?_, ?_⟩
    · rw [hawaited] at hflight
      exact onReply_of_inFlight hflight hread value
    · rw [hawaited] at hflight
      exact onReply_of_inFlight hflight hwatched value

/-- While a request is under way its active file is edited, its context file is dropped and removed,
and another file is focused. The reply spells the context file in another way, and adds a file. -/
theorem run_reply_originals_edited :
    let before : MemoryFiles :=
      { files := [("a.py", "x\n"), ("b.py", "u\n")], focus := some "a.py" }
    let after : MemoryFiles := { files := [("a.py", "edited\n")], focus := some "c.py" }
    let actions : List Action := [.addContextFile "b.py",
      .submit MemoryFiles.surface .accepting "go" before (), .removeContextFile "b.py"]
    let value : Json := .object [("changes", .array
      [.object [("filePath", .string "a.py"), ("newContent", .string "y\n")],
       .object [("filePath", .string "./b.py"), ("newContent", .string "v\n")],
       .object [("filePath", .string "c.py"), ("newContent", .string "w\n")]]),
      ("explanation", .string "e"), ("type", .string "multi_file_change")]
    let s := ((ofOptions {}).run actions).1
    s.inFlight.map InFlight.generation = some 1 ∧
    (∃ request live reread turn events, (ofOptions {}).RunDispatches actions 1 request ∧
      Live request (.ok "edited\n") live reread ∧
      Proposed request live (Reply.classify value) turn events ∧
      s.onReply MemoryFiles.surface 1 value after =
        (true, reread ++ events, s.answered turn, after)) ∧
    ((s.onReply MemoryFiles.surface 1 value after).2.2.1.changeSet? 1).map ChangeSet.changes =
      some [⟨"a.py", "edited\n", "y\n"⟩, ⟨"./b.py", "u\n", "v\n"⟩, ⟨"c.py", "", "w\n"⟩] := by
  intro before after actions value s
  have hflight : s.inFlight = some ⟨1, ⟨"a.py", "x\n"⟩, ⟨⟨"a.py", "x\n"⟩, [⟨"b.py", "u\n"⟩]⟩⟩ := by
    decide +kernel
  obtain ⟨⟨request, hrequest⟩, horiginals⟩ := run_reply_originals {} actions hflight
  have hawaited := hrequest.eq_awaited hflight
  refine ⟨by rw [hflight]; rfl, ?_, by decide +kernel⟩
  obtain ⟨live, reread, turn, events, hlive, hproposed, hreply, -⟩ :=
    horiginals request hrequest MemoryFiles.surface value after []
  have hpath : request.active.path = "a.py" := congrArg (fun f ↦ f.active.path) hawaited.symm
  rw [hpath] at hlive
  exact ⟨request, live, reread, turn, events, hrequest, hlive, hproposed, hreply⟩

end Session

end Redline
