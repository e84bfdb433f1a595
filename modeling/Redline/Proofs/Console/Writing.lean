import Redline.Console.App
import Redline.Proofs.Session.Surface
import Redline.Proofs.Workspace.WellFormed

/-!
# Only applying writes

The files of a workspace are read by the console at many places: when a file is focused, when a
prompt is submitted, when a reply arrives. They are written at one place only, when a line asks for
the changes of a turn to be applied, and then only if the turn that is asked for has a change set.

What happens is any sequence of lines, wake-ups, steps of workers, and steps of drains beside them.
Each line and each worker brings a backend of its own, which may answer anything.
-/

namespace Redline

/-! ## What applying changes -/

namespace Workspace

variable {w w' : Workspace} {changes : ChangeSet} {report : ApplyReport} {events : List Event}

theorem surface_readsOnly : surface.ReadsOnly := ⟨fun _ _ ↦ rfl, fun _ ↦ rfl⟩

/-- A change set has been written in a workspace `w`, which became `w'`. -/
structure Written (w : Workspace) (changes : ChangeSet) (w' : Workspace) : Prop where
  /-- The path of each change reads back what is proposed for it, unless another path of the change
  set names the same file. -/
  proposed : ∀ change ∈ changes.changes,
    (∀ other ∈ changes.changes, other.path ≠ change.path → ¬w'.SameFile other.path change.path) →
      w'.tree.readText (w.route change.path) = .ok change.proposed
  /-- Nothing stands elsewhere than before, except at the paths of the changes and in directories
  that were made above these. -/
  elsewhere : ∀ p, w'.tree.node? p = w.tree.node? p ∨
    (∃ change ∈ changes.changes, w'.tree.realPath (w.route change.path) = .ok p) ∨
    (w.tree.node? p = none ∧ w'.tree.node? p = some .directory ∧
      ∃ change ∈ changes.changes, ∃ q,
        w'.tree.realPath (w.route change.path) = .ok q ∧ p <+: q ∧ p ≠ q)

/-- **A change set that is applied is written.** -/
theorem written_of_apply (hwf : w.tree.WellFormed)
    (h : changes.apply surface w = (.ok report, events, w')) : w.Written changes w' := by
  obtain ⟨hwrite, -⟩ := ChangeSet.of_apply_eq_ok (fun path ↦ surface_readsOnly.read path w) h
  have hwrote := wrote_of_write hwf hwrite
  constructor
  · intro change hchange hothers
    obtain ⟨front, back, hsplit⟩ := List.append_of_mem hchange
    have hedits : changes.changes.map ChangeSet.editOf = front.map ChangeSet.editOf ++
        ChangeSet.editOf change :: back.map ChangeSet.editOf := by
      rw [hsplit, List.map_append, List.map_cons]
    refine hwrote.applied.reads (ChangeSet.editOf change) (List.mem_map_of_mem hchange) _ _ _ hedits
      rfl fun later hlater heq ↦ ?_
    -- A later change is one of another path, because no path is given twice.
    obtain ⟨other, hother, rfl⟩ := List.mem_map.mp hlater
    have hmem : other ∈ changes.changes := by
      rw [hsplit]
      exact List.mem_append_right _ (List.mem_cons_of_mem change hother)
    have hnodup := changes.nodup
    rw [hsplit, List.map_append, List.map_cons] at hnodup
    have hnew := (List.nodup_cons.mp (List.nodup_append.mp hnodup).2.1).1
    refine hothers other hmem (fun hpath ↦ hnew (hpath ▸ List.mem_map_of_mem hother)) ?_
    rw [SameFile, hwrote.route_eq, hwrote.route_eq]
    exact heq
  · intro p
    refine (hwrote.applied.unchanged p).imp_right (Or.imp ?_ ?_)
    · rintro ⟨edit, hedit, hpath⟩
      obtain ⟨change, hchange, rfl⟩ := List.mem_map.mp hedit
      exact ⟨change, hchange, hpath⟩
    · rintro ⟨hnone, hdirectory, edit, hedit, habove⟩
      obtain ⟨change, hchange, rfl⟩ := List.mem_map.mp hedit
      exact ⟨hnone, hdirectory, change, hchange, habove⟩

end Workspace

/-! ## What happens to a host -/

namespace Host

variable {σ β : Type} {S : Surface σ}

theorem submit_surface (h : S.ReadsOnly) (text : String) (host : Host σ β)
    (obstacle : Option String) : (host.submit S text obstacle).2.2.surface = host.surface :=
  Session.submit_surface h _ text host.session host.surface host.workers

theorem deliverOutcome_surface (h : S.ReadsOnly) (outcome : Outcome) (host : Host σ β) :
    (host.deliverOutcome S outcome).2.surface = host.surface := by
  rw [deliverOutcome]
  cases outcome.result with
  | replied value => exact Session.onReply_surface h _ value host.session host.surface
  | failed e => rfl

theorem deliver_surface (h : S.ReadsOnly) (i : Nat) (host : Host σ β) :
    (host.deliver S i).2.surface = host.surface := by
  rw [deliver]
  split
  · rfl
  · exact deliverOutcome_surface h _ _

theorem take_surface (host : Host σ β) : host.take.surface = host.surface := by
  rw [take]
  split <;> rfl

theorem drainMany_surface (h : S.ReadsOnly) (n : Nat) (host : Host σ β) :
    (host.drainMany S n).2.surface = host.surface := by
  induction n generalizing host with
  | zero => rfl
  | succ n ih =>
    calc (host.drainMany S (n + 1)).2.surface
      _ = (host.take.deliver S host.taken.length).2.surface := ih _
      _ = host.take.surface := deliver_surface h _ _
      _ = host.surface := take_surface host

theorem finishWorker_surface (B : Backend β) (i : Nat) (host : Host σ β) :
    (host.finishWorker B i).surface = host.surface := by
  rw [finishWorker]
  split <;> rfl

theorem callWake_surface (generation : Generation) (host : Host σ β) :
    (host.callWake generation).surface = host.surface := by
  rw [callWake]
  split <;> rfl

theorem apply_eq (S : Surface σ) (turn : Option Nat) (host : Host σ β) :
    let r := host.session.applyAny S turn host.surface
    host.apply S turn = (r.1, r.2.1, { host with surface := r.2.2 }) := by
  cases turn <;> rfl

end Host

namespace Console

variable {β : Type} {app : App β}

/-! ## What happens to a console -/

/-- Something that happens to a console. -/
inductive Occurrence (β : Type)
  | line (B : Backend β) (text : String)
  | wake
  /-- The worker at a position gets its answer and puts the outcome into the queue. -/
  | finishWorker (B : Backend β) (i : Nat)
  /-- The worker of a generation calls for a wake-up, if it still has to. -/
  | callWake (generation : Generation)
  | take
  /-- A drain delivers the outcome at a position among those that were taken. -/
  | deliver (i : Nat)

def after (app : App β) : Occurrence β → App β
  | .line B text => (handleLine B app text).state
  | .wake => (handleWake app).state
  | .finishWorker B i => app.finishWorker B i
  | .callWake generation => app.callWake generation
  | .take => app.take
  | .deliver i => (app.deliver Workspace.surface i).2

def afterAll (app : App β) (occurrences : List (Occurrence β)) : App β :=
  occurrences.foldl after app

/-- A line that asks for changes to be applied, of the turn with an index or of the latest turn that
has some. -/
def Occurrence.asksFor (turn : Option Nat) : Occurrence β → Prop
  | .line _ text => Command.ofLine? text = some (.apply turn)
  | _ => False

/-! ## What happens to the files -/

theorem submitLine_surface (app : App β) (text : String) :
    (submitLine app text).state.surface = app.surface := by
  have hsubmit := Host.submit_surface Workspace.surface_readsOnly text app none
  simp only [submitLine]
  split
  · rfl
  · cases (app.submit Workspace.surface text).1 <;> exact hsubmit

theorem focusFile_tree (app : App β) (path : String) :
    (focusFile app path).state.surface.tree = app.surface.tree := by
  rw [focusFile]
  split
  next relative workspace hfocus => exact (Workspace.exists_of_focusOn hfocus).1
  next => rfl

theorem runCommand_tree (B : Backend β) (app : App β) {command : Command}
    (h : ∀ turn, command ≠ .apply turn) :
    (runCommand B app command).state.surface.tree = app.surface.tree := by
  cases command with
  | apply turn => exact absurd rfl (h turn)
  | focus path => exact focusFile_tree app path
  | track path =>
    rw [runCommand, trackFile]
    split <;> rfl
  | untrack path =>
    rw [runCommand, untrackFile]
    split <;> rfl
  | model id =>
    rw [runCommand]
    cases id with
    | none => rfl
    | some model =>
      rw [modelCommand]
      split <;> rfl
  | _ => rfl

theorem after_tree {occurrence : Occurrence β} (h : ∀ turn, ¬occurrence.asksFor turn)
    (app : App β) : (after app occurrence).surface.tree = app.surface.tree := by
  have hreads := Workspace.surface_readsOnly
  cases occurrence with
  | line B text =>
    rw [after, handleLine]
    split
    next command hcommand =>
      exact runCommand_tree B app fun turn hturn ↦ h turn (hcommand.trans (congrArg some hturn))
    next => exact congrArg Workspace.tree (submitLine_surface app text)
  | wake => exact congrArg Workspace.tree (Host.drainMany_surface hreads _ app)
  | finishWorker B i => exact congrArg Workspace.tree (Host.finishWorker_surface B i app)
  | callWake generation => exact congrArg Workspace.tree (Host.callWake_surface generation app)
  | take => exact congrArg Workspace.tree (Host.take_surface app)
  | deliver i => exact congrArg Workspace.tree (Host.deliver_surface hreads i app)

/-- A line that asks for changes to be applied applies them, and does nothing else. -/
theorem after_of_asksFor {occurrence : Occurrence β} {turn : Option Nat}
    (h : occurrence.asksFor turn) (app : App β) :
    after app occurrence = (app.apply Workspace.surface turn).2.2 := by
  cases occurrence with
  | line B text =>
    have hcommand : Command.ofLine? text = some (.apply turn) := h
    simp only [after, handleLine, hcommand]
    rfl
  | _ => exact h.elim

/-- **Whatever happens leaves the files as they are, or asks for changes to be applied.** -/
theorem after_cases (app : App β) (occurrence : Occurrence β) :
    (after app occurrence).surface.tree = app.surface.tree ∨
      ∃ turn, occurrence.asksFor turn := by
  by_cases hasks : ∃ turn, occurrence.asksFor turn
  · exact .inr hasks
  · exact .inl (after_tree (not_exists.mp hasks) app)

/-! ## Runs -/

theorem wellFormed_apply (hwf : app.surface.tree.WellFormed) (turn : Option Nat) :
    (app.apply Workspace.surface turn).2.2.surface.tree.WellFormed := by
  rw [Host.apply_eq]
  rcases Session.applyAny_cases Workspace.surface turn app.session app.surface with
    ⟨changes, hselects⟩ | ⟨e, hnothing⟩
  · rw [hselects.applyAny_eq]
    obtain ⟨tree, htree, hrewritten⟩ := Workspace.rewritten_apply hwf changes
    simp only [hrewritten]
    exact htree
  · rw [hnothing]
    exact hwf

theorem wellFormed_after (hwf : app.surface.tree.WellFormed) (occurrence : Occurrence β) :
    (after app occurrence).surface.tree.WellFormed := by
  rcases after_cases app occurrence with htree | ⟨turn, hasks⟩
  · rw [htree]
    exact hwf
  · rw [after_of_asksFor hasks]
    exact wellFormed_apply hwf turn

theorem wellFormed_afterAll (hwf : app.surface.tree.WellFormed)
    (occurrences : List (Occurrence β)) : (afterAll app occurrences).surface.tree.WellFormed := by
  induction occurrences generalizing app with
  | nil => exact hwf
  | cons occurrence occurrences ih => exact ih (wellFormed_after hwf occurrence)

/-- **Only applying writes**, whatever has happened before. The files change only when a line asks
for the changes of a turn, and the turn that is asked for has a change set. If that is applied, the
files of its changes hold what is proposed for them, and nothing else has changed but for the
directories that were made above them. -/
theorem only_applying_writes (options : SessionOptions) (w : Workspace) (backend : β)
    (hwf : w.tree.WellFormed) (occurrences : List (Occurrence β)) (next : Occurrence β) :
    let app := afterAll (Host.start (.ofOptions options) w backend) occurrences
    let later := after app next
    (later.surface.tree ≠ app.surface.tree →
      ∃ turn changes, next.asksFor turn ∧ app.session.Selects turn changes) ∧
    ∀ turn changes, next.asksFor turn → app.session.Selects turn changes →
      ∀ report, (app.apply Workspace.surface turn).1 = .ok report →
        app.surface.Written changes later.surface := by
  intro app later
  have hkept : app.surface.tree.WellFormed := wellFormed_afterAll hwf occurrences
  have hlater : ∀ turn, next.asksFor turn →
      later.surface = (app.session.applyAny Workspace.surface turn app.surface).2.2 := by
    intro turn hasks
    have happly : later = (app.apply Workspace.surface turn).2.2 := after_of_asksFor hasks app
    rw [happly, Host.apply_eq]
  constructor
  · intro hchanged
    obtain ⟨turn, hasks⟩ := (after_cases app next).resolve_left hchanged
    rcases Session.applyAny_cases Workspace.surface turn app.session app.surface with
      ⟨changes, hselects⟩ | ⟨e, hnothing⟩
    · exact ⟨turn, changes, hasks, hselects⟩
    · refine absurd ?_ hchanged
      rw [hlater turn hasks, hnothing]
  · intro turn changes hasks hselects report hreport
    rw [Host.apply_eq, hselects.applyAny_eq] at hreport
    rw [hlater turn hasks, hselects.applyAny_eq]
    exact Workspace.written_of_apply hkept (Prod.ext hreport rfl)

/-- A prompt is answered with a new content for the focused file, and the latest proposal is
applied. -/
theorem only_applying_writes_latest :
    let B : Backend Unit := ⟨fun _ ↦ .ofModel "b" "m", fun _ s ↦
      (.reply (.object [("content", .string "y\n"), ("type", .string "replace_file")]), s)⟩
    let w : Workspace := {
      tree := ⟨[(["ws"], .directory), (["ws", "a.py"], .file (.text "x\n"))]⟩
      root := ["ws"] }
    let app := afterAll (Host.start (.ofOptions {}) w ()) [.line B "/open a.py",
      .line B "say y", .finishWorker B 0, .callWake 1, .wake]
    let later := after app (.line B "/apply")
    let changes : ChangeSet := .single ⟨"a.py", "x\n", "y\n"⟩
    later.surface.tree.entries ≠ app.surface.tree.entries ∧
      app.session.Selects none changes ∧ app.surface.Written changes later.surface := by
  intro B w app later changes
  have hwf : w.tree.WellFormed := by decide +kernel
  obtain ⟨-, hwritten⟩ := only_applying_writes {} w () hwf [.line B "/open a.py",
    .line B "say y", .finishWorker B 0, .callWake 1, .wake] (.line B "/apply")
  have hturns : app.session.turns = [.userInput "say y"] ++ .replaceFile changes :: [] := by
    decide +kernel
  have hselects : app.session.Selects none changes := .latest hturns rfl nofun
  have hasks : Occurrence.asksFor none (.line B "/apply") := by
    change Command.ofLine? "/apply" = some (.apply none)
    decide +kernel
  have hreport : (app.apply Workspace.surface none).1 = .ok ⟨["a.py"], []⟩ := by decide +kernel
  exact ⟨by decide +kernel, hselects, hwritten none changes hasks hselects _ hreport⟩

end Console

end Redline
