import Redline.Proofs.ChangeSet.Overwrite
import Redline.Proofs.Session.Committed
import Redline.Proofs.Session.Proposal
import Redline.Proofs.Session.Surface

/-!
# The file shown and the file written

A proposal is shown against the content that was captured for its path, and the captured file is
found by the normal form of that path. When the proposal is applied, the path itself is read and
written, as it is spelled. Whether the file that was shown is the file that is written is therefore
up to the surface, for which the two spellings need not be the same.

Files in memory are told apart by their spellings. In a workspace a path is followed through the
tree, and then spellings with equal normal forms lead to the same file, unless one of them has white
space around it.
-/

namespace Redline

open Redline.Text

/-! ## Captured files -/

namespace ContextSnapshot

/-- The captured file that a path names, the active file first. -/
def captured? (snapshot : ContextSnapshot) (path : String) : Option FileSnapshot :=
  (snapshot.active :: snapshot.files).find? fun f ↦ normalizePath f.path == normalizePath path

theorem lookup?_eq (snapshot : ContextSnapshot) (path : String) :
    snapshot.lookup? path = (snapshot.captured? path).map FileSnapshot.content := by
  rw [lookup?, captured?, List.find?_cons]
  by_cases hactive : normalizePath snapshot.active.path = normalizePath path
  · simp only [if_pos hactive, beq_iff_eq.mpr hactive, Option.map_some]
  · simp only [if_neg hactive, beq_eq_false_iff_ne.mpr hactive]

theorem normalizePath_of_captured? {snapshot : ContextSnapshot} {path : String} {f : FileSnapshot}
    (h : snapshot.captured? path = some f) : normalizePath path = normalizePath f.path := by
  have hfound := List.find?_some h
  exact (beq_iff_eq.mp hfound).symm

end ContextSnapshot

/-! ## Proposals in a run -/

namespace Session

open ChangeSet

variable {options : SessionOptions} {s : Session} {turn : Nat} {files : List ProposedFile}
  {file : ProposedFile} {f : FileSnapshot}

/-- In some run a multi-file reply has become the turn with the given number, which is still in the
log of the session, and one of its files is shown against the captured file `f`. -/
inductive Showing (options : SessionOptions) :
    Session → Nat → List ProposedFile → ProposedFile → FileSnapshot → Prop
  | intro {σ : Type} {actions more : List Action} {S : Surface σ} {value : Json} {surface : σ}
    {s : Session} {fl : InFlight} {why : String} {files : List ProposedFile} {file : ProposedFile}
    {f : FileSnapshot} :
    ((ofOptions options).run actions).1 = s → s.inFlight = some fl →
    Reply.classify value = .multiFileChange why files → file ∈ files →
    (fl.snapshot.withActive (readAgain S fl.active surface).1).captured? file.path = some f →
    (∀ action ∈ more, action ≠ .clear) →
    Showing options (s.run (.reply S fl.generation value surface :: more)).1 (s.turns.length - 1)
      files file f

/-- The turn of a reply that is taken stays in the place of the mark. -/
theorem LogKept.getElem?_reply {σ : Type} {fl : InFlight} (h : s.LogKept)
    (hflight : s.inFlight = some fl) (S : Surface σ) (value : Json) (surface : σ)
    {more : List Action} (hclear : ∀ action ∈ more, action ≠ .clear) :
    (s.run (.reply S fl.generation value surface :: more)).1.turns[s.turns.length - 1]? =
      some (replyTurn S fl value surface) := by
  obtain ⟨front, hint, hturns, hfront⟩ := h.exists_mark hflight
  have hkept := h.effect (s.perform_effect (.reply S fl.generation value surface))
  have hanswered : (s.perform (.reply S fl.generation value surface)).1.turns =
      front ++ [replyTurn S fl value surface] := by
    rw [perform_reply_of_inFlight hflight]
    exact turns_answered _ hturns
  have hsettled : ∀ t ∈ front ++ [replyTurn S fl value surface], t.isLoading = false := by
    intro t ht
    rcases List.mem_append.mp ht with ht | ht
    · exact hfront t ht
    · rw [List.mem_singleton.mp ht]
      exact (Turn.isOutcome_ofReply _ _ _).2
  have hstays := (hkept.committed_prefix_run more hclear).trans (Turn.committed_isPrefix _)
  rw [hanswered, Turn.committed_eq_self hsettled] at hstays
  obtain ⟨rest, hrest⟩ := hstays
  have hlength : s.turns.length - 1 = front.length := by
    rw [hturns, List.length_append, List.length_singleton, Nat.add_sub_cancel]
  rw [run, ← hrest, hlength, List.append_assoc, List.getElem?_append_right (Nat.le_refl _),
    Nat.sub_self]
  rfl

theorem Showing.exists_changeSet (h : Showing options s turn files file f) :
    Reply.ValidChanges files ∧ file ∈ files ∧ normalizePath file.path = normalizePath f.path ∧
      ∃ changes : ChangeSet, s.changeSet? turn = some changes ∧
        changes.paths = files.map ProposedFile.path ∧
          ChangeSet.changeFor file f ∈ changes.changes := by
  cases h with
  | @intro σ actions more S value surface s fl why files file f hrun hflight hreply hmem hcaptured
      hclear =>
    have hvalid := Reply.validChanges_of_classify hreply
    have hnormal := ContextSnapshot.normalizePath_of_captured? hcaptured
    let live := (readAgain S fl.active surface).1
    obtain ⟨changes, hchanges, hturn⟩ :=
      Turn.ofReply_multiFileChange hvalid live (fl.snapshot.withActive live) why
    have hchange : Turn.changeOf (fl.snapshot.withActive live) file =
        ChangeSet.changeFor file f := by
      rw [Turn.changeOf, ContextSnapshot.lookup?_eq, hcaptured]
      rfl
    refine ⟨hvalid, hmem, hnormal, changes, ?_, ?_, ?_⟩
    · have hkept : s.LogKept := hrun ▸ logKept_run options actions
      have htaken : replyTurn S fl value surface = .multiFileChange why changes := by
        rw [replyTurn, hreply]
        exact hturn
      rw [changeSet?, hkept.getElem?_reply hflight S value surface hclear, htaken]
      rfl
    · exact Turn.paths_eq_of_changes hchanges
    · rw [hchanges, ← hchange]
      exact List.mem_map_of_mem hmem

/-- **The file shown is the file written** when the two paths mean one file to the surface, and only
then if the proposal changes anything. In memory they do if they are spelled alike. In a workspace
they do if they lead to the same place, as paths without white space around them always do. The file
must not have been edited, and no other entry of the reply may name it. -/
theorem shown_file_written (h : Showing options s turn files file f) :
    (∀ (m m' : MemoryFiles) (report : ApplyReport) (events : List Event),
      s.applyTurn MemoryFiles.surface turn m = (.ok report, events, m') →
      m.read f.path = .ok f.content →
      (∀ other ∈ files, other ≠ file → other.path ≠ f.path) →
      (file.path = f.path → Overwritten MemoryFiles.surface file f report m') ∧
      (Overwritten MemoryFiles.surface file f report m' →
        file.path = f.path ∨ file.content = f.content)) ∧
    (∀ (w w' : Workspace) (report : ApplyReport) (events : List Event), w.tree.WellFormed →
      s.applyTurn Workspace.surface turn w = (.ok report, events, w') →
      w.readFile f.path = .ok f.content →
      (∀ other ∈ files, other ≠ file → ¬w'.SameFile other.path f.path) →
      (w.SameFile file.path f.path → Overwritten Workspace.surface file f report w') ∧
      (Overwritten Workspace.surface file f report w' →
        w'.SameFile file.path f.path ∨ file.content = f.content) ∧
      (Trimmed file.path → Trimmed f.path → w.SameFile file.path f.path)) := by
  obtain ⟨hvalid, hmem, hnormal, changes, hchangeSet, hpaths, hchange⟩ := h.exists_changeSet
  have hblank : isBlankText file.path = false := hvalid.not_blank file hmem
  -- Another path of the change set is that of another file of the reply.
  have hother : ∀ path ∈ changes.paths, path ≠ file.path →
      ∃ other ∈ files, other ≠ file ∧ other.path = path := by
    intro path hpath hne
    rw [hpaths] at hpath
    obtain ⟨other, hother, rfl⟩ := List.mem_map.mp hpath
    exact ⟨other, hother, fun heq ↦ hne (congrArg ProposedFile.path heq), rfl⟩
  constructor
  · intro m m' report events happly hread hothers
    rw [applyTurn_of_changeSet? hchangeSet] at happly
    refine overwritten_memory hchange happly hread fun path hpath hne ↦ ?_
    obtain ⟨other, hmem, hdiffers, rfl⟩ := hother path hpath hne
    exact hothers other hmem hdiffers
  · intro w w' report events hwf happly hread hothers
    rw [applyTurn_of_changeSet? hchangeSet] at happly
    have hunnamed : ∀ path ∈ changes.paths, path ≠ file.path → ¬w'.SameFile path f.path := by
      intro path hpath hne
      obtain ⟨other, hmem, hdiffers, rfl⟩ := hother path hpath hne
      exact hothers other hmem hdiffers
    obtain ⟨hwritten, honly⟩ := overwritten_workspace hwf hchange hblank happly hread hunnamed
    refine ⟨hwritten, honly, fun hfile hf ↦ ?_⟩
    exact sameFile_of_apply hwf hchange happly hread hfile hf hnormal

/-- A file that is spelled as it was captured is overwritten on both surfaces. -/
theorem shown_file_written_alike :
    let m : MemoryFiles := { files := [("a.py", "x\n")], focus := some "a.py" }
    let w : Workspace := {
      tree := ⟨[(["ws"], .directory), (["ws", "a.py"], .file (.text "x\n"))]⟩
      root := ["ws"] }
    let file : ProposedFile := ⟨"a.py", "y\n"⟩
    let new : ProposedFile := ⟨"b.py", "z\n"⟩
    let asked := ((ofOptions {}).run [.submit MemoryFiles.surface .accepting "go" m ()]).1
    let s := (asked.run [.reply MemoryFiles.surface 1
      (.object [("changes", .array
        [.object [("filePath", .string "a.py"), ("newContent", .string "y\n")],
         .object [("filePath", .string "b.py"), ("newContent", .string "z\n")]]),
        ("explanation", .string "e"), ("type", .string "multi_file_change")]) m]).1
    Showing {} s 1 [file, new] file ⟨"a.py", "x\n"⟩ ∧
    (∃ report events m', s.applyTurn MemoryFiles.surface 1 m = (.ok report, events, m') ∧
      Overwritten MemoryFiles.surface file ⟨"a.py", "x\n"⟩ report m') ∧
    ∃ report events w', s.applyTurn Workspace.surface 1 w = (.ok report, events, w') ∧
      Overwritten Workspace.surface file ⟨"a.py", "x\n"⟩ report w' := by
  intro m w file new asked s
  have hshowing : Showing {} s 1 [file, new] file ⟨"a.py", "x\n"⟩ :=
    @Showing.intro {} MemoryFiles _ [] MemoryFiles.surface _ m asked
      ⟨1, ⟨"a.py", "x\n"⟩, ⟨⟨"a.py", "x\n"⟩, []⟩⟩ "e" _ _ _ rfl (by decide) (by decide)
      (by decide) (by decide) nofun
  have hmemory : s.applyTurn MemoryFiles.surface 1 m = (.ok ⟨["a.py", "b.py"], []⟩, _, _) :=
    Prod.ext (by decide +kernel) rfl
  have hworkspace : s.applyTurn Workspace.surface 1 w = (.ok ⟨["a.py", "b.py"], []⟩, _, _) :=
    Prod.ext (by decide +kernel) rfl
  obtain ⟨hinMemory, hinWorkspace⟩ := shown_file_written hshowing
  have hother : ∀ other ∈ [file, new], other ≠ file → other = new := by decide
  refine ⟨hshowing, ⟨_, _, _, hmemory, ?_⟩, _, _, _, hworkspace, ?_⟩
  · have hwritten := hinMemory m _ _ _ hmemory (by decide +kernel) fun other hmem hne ↦ by
      rw [hother other hmem hne]
      decide
    exact hwritten.1 rfl
  · have hwritten := hinWorkspace w _ _ _ (by decide +kernel) hworkspace (by decide +kernel)
      fun other hmem hne ↦ by
        rw [hother other hmem hne]
        decide +kernel
    exact hwritten.1 rfl

/-- **Another spelling is another file in memory.** The file `a.py` is shown as the original of the
entry `./a.py`, but it is not written, and the entry is reported as drifted. -/
theorem not_overwritten_other_spelling :
    let m : MemoryFiles := { files := [("a.py", "x\n")], focus := some "a.py" }
    let file : ProposedFile := ⟨"./a.py", "y\n"⟩
    let asked := ((ofOptions {}).run [.submit MemoryFiles.surface .accepting "go" m ()]).1
    let s := (asked.run [.reply MemoryFiles.surface 1
      (.object [("changes", .array
        [.object [("filePath", .string "./a.py"), ("newContent", .string "y\n")]]),
        ("explanation", .string "e"), ("type", .string "multi_file_change")]) m]).1
    Showing {} s 1 [file] file ⟨"a.py", "x\n"⟩ ∧ m.read "a.py" = .ok "x\n" ∧
    ∃ report events m', s.applyTurn MemoryFiles.surface 1 m = (.ok report, events, m') ∧
      m'.read "a.py" = .ok "x\n" ∧ "./a.py" ∈ report.drifted ∧
        ¬Overwritten MemoryFiles.surface file ⟨"a.py", "x\n"⟩ report m' := by
  intro m file asked s
  have hshowing : Showing {} s 1 [file] file ⟨"a.py", "x\n"⟩ :=
    @Showing.intro {} MemoryFiles _ [] MemoryFiles.surface _ m asked
      ⟨1, ⟨"a.py", "x\n"⟩, ⟨⟨"a.py", "x\n"⟩, []⟩⟩ "e" _ _ _ rfl (by decide) (by decide)
      (by decide) (by decide) nofun
  have happly : s.applyTurn MemoryFiles.surface 1 m = (.ok ⟨["./a.py"], ["./a.py"]⟩, _, _) :=
    Prod.ext (by decide +kernel) rfl
  have hdrifted : "./a.py" ∈ ["./a.py"] := List.mem_cons_self
  exact ⟨hshowing, by decide +kernel, _, _, _, happly, by decide +kernel, hdrifted,
    fun hwritten ↦ hwritten.2 hdrifted⟩

end Session

end Redline
