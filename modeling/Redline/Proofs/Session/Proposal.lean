import Redline.Proofs.Turn.Build
import Redline.Proofs.Session.Run
import Redline.Surface.Memory

/-!
# Proposals for several files

A proposal for several files enters the log in one way only, by a reply that is taken, and names the
files as the reply spells them. That a reply gives no path twice is checked when it is understood,
and once more when its change set is made; both checks compare spellings.

Everywhere else paths are compared by their normal forms. The two agree on a log as long as no reply
spells one file in two ways, and spells none by a path whose normal form is empty. So what a log
keeps is settled reply by reply.
-/

namespace Redline

open Redline.Text

def Dispatcher.accepting : Dispatcher Unit := ⟨fun _ _ state ↦ (.ok (), state)⟩

namespace Session

variable {σ : Type} {s : Session} {f : InFlight} {action : Action} {actions : List Action}
variable {turn t : Turn} {why : String} {changes : ChangeSet} {paths : List String}

/-- The turn that a reply becomes when it is taken. -/
def replyTurn (S : Surface σ) (f : InFlight) (value : Json) (surface : σ) : Turn :=
  let live := (readAgain S f.active surface).1
  (Turn.ofReply live (f.snapshot.withActive live) (Reply.classify value)).1

theorem perform_reply_of_inFlight (h : s.inFlight = some f) (S : Surface σ) (value : Json)
    (surface : σ) : (s.perform (.reply S f.generation value surface)).1 =
      s.answered (replyTurn S f value surface) := by
  rw [perform, onReply_of_inFlight h rfl]
  rfl

theorem perform_reply_of_stale {generation : Generation}
    (h : ∀ f, s.inFlight = some f → f.generation ≠ generation) (S : Surface σ) (value : Json)
    (surface : σ) : (s.perform (.reply S generation value surface)).1 = s := by
  rw [perform, onReply_of_stale h]

theorem mem_turns_answered (h : t ∈ (s.answered turn).turns) : t ∈ s.turns ∨ t = turn := by
  obtain ⟨kept, marks, hturns, -, hkept⟩ := turns_removeLoading { s with inFlight := none }
  rw [answered, turns_push, hkept] at h
  rcases List.mem_append.mp h with h | h
  · exact .inl (hturns ▸ List.mem_append_left marks h)
  · exact .inr (List.mem_singleton.mp h)

theorem mem_turns_answered_self (s : Session) (turn : Turn) : turn ∈ (s.answered turn).turns :=
  List.mem_append_right _ (List.mem_singleton_self turn)

/-! ## Replies that are taken -/

/-- A call makes a session take a multi-file reply with the given paths. -/
inductive Proposes (s : Session) : Action → List String → Prop
  | intro {σ : Type} (S : Surface σ) {f : InFlight} {value : Json} (surface : σ) {why : String}
    {files : List ProposedFile} : s.inFlight = some f →
    Reply.classify value = .multiFileChange why files →
    Proposes s (.reply S f.generation value surface) (files.map ProposedFile.path)

/-- Somewhere in a run a multi-file reply with the given paths is taken. -/
inductive RunProposes : Session → List Action → List String → Prop
  /-- The first call makes the session take it. -/
  | here {s : Session} {action : Action} {actions : List Action} {paths : List String} :
    s.Proposes action paths → RunProposes s (action :: actions) paths
  /-- It is taken later. -/
  | later {s : Session} {action : Action} {actions : List Action} {paths : List String} :
    RunProposes (s.perform action).1 actions paths → RunProposes s (action :: actions) paths

/-- The paths of a reply are distinct as they are spelled, and none is blank. -/
theorem Proposes.spelled (h : s.Proposes action paths) :
    paths.Nodup ∧ ∀ path ∈ paths, isBlankText path = false := by
  obtain ⟨S, surface, hflight, hreply⟩ := h
  have hvalid := Reply.validChanges_of_classify hreply
  exact ⟨hvalid.nodup, List.forall_mem_map.mpr hvalid.not_blank⟩

theorem Proposes.exists_turn (h : s.Proposes action paths) :
    ∃ why changes, .multiFileChange why changes ∈ (s.perform action).1.turns ∧
      changes.paths = paths := by
  cases h with
  | @intro σ S f value surface why files hflight hreply =>
    let live := (readAgain S f.active surface).1
    have hvalid := Reply.validChanges_of_classify hreply
    obtain ⟨changes, hchanges, hturn⟩ :=
      Turn.ofReply_multiFileChange hvalid live (f.snapshot.withActive live) why
    have htaken : replyTurn S f value surface = .multiFileChange why changes := by
      rw [replyTurn, hreply]
      exact hturn
    refine ⟨why, changes, ?_, Turn.paths_eq_of_changes hchanges⟩
    rw [perform_reply_of_inFlight hflight, htaken]
    exact mem_turns_answered_self s _

theorem proposes_of_mem_turns (h : .multiFileChange why changes ∈ (s.perform action).1.turns) :
    .multiFileChange why changes ∈ s.turns ∨ s.Proposes action changes.paths := by
  cases action with
  | submit S D text surface dispatcher =>
    have hend := submission S D text s surface dispatcher
    simp only [perform] at h
    generalize s.submit S D text surface dispatcher = r at hend h
    left
    cases hend with
    | blank | busy => exact h
    | unasked => simpa using h
    | refused => simpa using h
    | accepted => simpa using h
  | reply S generation value surface =>
    rcases s.inFlight_or_stale generation with ⟨f, hflight, rfl⟩ | hstale
    · rw [perform_reply_of_inFlight hflight] at h
      rcases mem_turns_answered h with h | h
      · exact .inl h
      · obtain ⟨files, hreply, hpaths⟩ := Turn.paths_of_ofReply h.symm
        exact .inr (hpaths ▸ .intro S surface hflight hreply)
    · rw [perform_reply_of_stale hstale] at h
      exact .inl h
  | failure generation message =>
    left
    rw [perform] at h
    rcases s.inFlight_or_stale generation with ⟨f, hflight, rfl⟩ | hstale
    · rw [onFailure_of_inFlight hflight] at h
      exact (mem_turns_answered h).resolve_right Turn.noConfusion
    · rwa [onFailure_of_stale hstale] at h
  | clear => exact absurd h List.not_mem_nil
  | setModel model =>
    left
    rw [perform, setModel] at h
    cases htext : trimmed? model <;> simpa only [htext] using h
  | addContextFile path =>
    left
    rw [perform, addContextFile] at h
    cases htext : trimmed? path <;> simpa only [htext] using h
  | removeContextFile path => exact .inl h
  | apply S turn surface => exact .inl h

/-- **Every proposal for several files stems from a reply** that was taken in the run. -/
theorem runProposes_of_mem_turns
    (h : .multiFileChange why changes ∈ (s.run actions).1.turns) :
    .multiFileChange why changes ∈ s.turns ∨ s.RunProposes actions changes.paths := by
  induction actions generalizing s with
  | nil => exact .inl h
  | cons action actions ih =>
    rcases ih h with hmem | hlater
    · rcases proposes_of_mem_turns hmem with hmem | hhere
      · exact .inl hmem
      · exact .inr (.here hhere)
    · exact .inr (.later hlater)

/-- A reply that is taken in a run has a call after which its proposal is in the log. -/
theorem RunProposes.exists_front (h : s.RunProposes actions paths) :
    ∃ front, front <+: actions ∧ ∃ why changes,
      .multiFileChange why changes ∈ (s.run front).1.turns ∧ changes.paths = paths := by
  induction h with
  | @here s action actions paths hhere =>
    obtain ⟨why, changes, hmem, hpaths⟩ := hhere.exists_turn
    exact ⟨[action], List.prefix_append [action] actions, why, changes, hmem, hpaths⟩
  | @later s action actions paths _ ih =>
    obtain ⟨front, hfront, why, changes, hmem, hpaths⟩ := ih
    exact ⟨action :: front, List.cons_prefix_cons.mpr ⟨rfl, hfront⟩, why, changes, hmem, hpaths⟩

theorem RunProposes.spelled (h : s.RunProposes actions paths) :
    paths.Nodup ∧ ∀ path ∈ paths, isBlankText path = false := by
  induction h with
  | here hhere => exact hhere.spelled
  | later _ ih => exact ih

theorem RunProposes.append {front back : List Action} (h : s.RunProposes front paths) :
    s.RunProposes (front ++ back) paths := by
  induction h with
  | here hhere => exact .here hhere
  | later _ ih => exact .later ih

/-! ## One entry per file -/

/-- Paths name different files, compared by their normal forms, and none is the empty path. -/
def NameFilesOnce (paths : List String) : Prop :=
  (paths.map normalizePath).Nodup ∧ "" ∉ paths.map normalizePath

instance (paths : List String) : Decidable (NameFilesOnce paths) :=
  inferInstanceAs (Decidable (_ ∧ _))

/-- Every proposal for several files in the log has one entry per file. -/
def OneEntryPerFile (s : Session) : Prop :=
  ∀ why changes, .multiFileChange why changes ∈ s.turns → NameFilesOnce changes.paths

/-- **A log has one entry per file as long as every reply has.** In every run the proposals have
distinct spellings, none of them blank. Up to the end of the run their normal forms are distinct and
not empty exactly if this holds of every multi-file reply that is taken on the way. -/
theorem oneEntryPerFile_iff (options : SessionOptions) (actions : List Action) :
    (∀ why changes, .multiFileChange why changes ∈ ((ofOptions options).run actions).1.turns →
      changes.paths.Nodup ∧ ∀ path ∈ changes.paths, isBlankText path = false) ∧
    ((∀ front, front <+: actions → ((ofOptions options).run front).1.OneEntryPerFile) ↔
      ∀ paths, (ofOptions options).RunProposes actions paths → NameFilesOnce paths) := by
  have hstart : ∀ turn, turn ∉ (ofOptions options).turns := fun turn ↦ List.not_mem_nil
  refine ⟨?_, ?_, ?_⟩
  · intro why changes hmem
    exact ((runProposes_of_mem_turns hmem).resolve_left (hstart _)).spelled
  · intro hlogs paths hpaths
    obtain ⟨front, hfront, why, changes, hmem, rfl⟩ := hpaths.exists_front
    exact hlogs front hfront why changes hmem
  · rintro hreplies front ⟨back, rfl⟩ why changes hmem
    have hproposes := (runProposes_of_mem_turns hmem).resolve_left (hstart _)
    exact hreplies _ hproposes.append

/-- Two spellings of one file are two entries. -/
theorem not_oneEntryPerFile_two_spellings :
    ¬((ofOptions {}).run
      [.submit MemoryFiles.surface .accepting "go"
        { files := [("a.py", "x\n")], focus := some "a.py" } (),
       .reply MemoryFiles.surface 1
        (.object [("changes", .array
          [.object [("filePath", .string "a.py"), ("newContent", .string "y\n")],
           .object [("filePath", .string "./a.py"), ("newContent", .string "z\n")]]),
          ("explanation", .string "e"), ("type", .string "multi_file_change")])
        { files := [("a.py", "x\n")], focus := some "a.py" }]).1.OneEntryPerFile := by
  intro h
  have honce := h "e" ⟨[⟨"a.py", "x\n", "y\n"⟩, ⟨"./a.py", "x\n", "z\n"⟩],
    by decide, by decide⟩ (by decide)
  exact absurd honce (by decide)

end Session

end Redline
