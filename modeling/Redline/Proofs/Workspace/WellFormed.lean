import Redline.Proofs.ChangeSet.Overwrite
import Redline.Proofs.Workspace.Confined

/-!
# Writing keeps trees well formed

Whatever becomes of a write, a batch or the restoring of a batch, the tree stays well formed, and of
the workspace nothing but the tree changes. That holds along links of any kind, also where what is
restored is not what has been written: files are written and removed where nothing stands below
them, and of directories only empty ones are removed.
-/

namespace Redline

open FileTree Route

/-! ## Changing one entry -/

namespace FileTree

variable {tree result : FileTree} {r : Route} {content : Content}

theorem WellFormed.writeFile (hwf : tree.WellFormed) (h : tree.writeFile r content = .ok result) :
    result.WellFormed := by
  obtain ⟨place, hlocate, hbare, rfl⟩ := writeFile_iff.mp h
  exact ((Grown.refl hwf).set_place (hwf.locate_stands hlocate) hbare).wellFormed

theorem ne_nil_of_entryOf {fault : Fault} {p : TreePath} (h : tree.entryOf fault r = .ok p) :
    p ≠ [] := by
  obtain ⟨-, -, name, -, here, -, -, -, -, rfl⟩ := exists_of_entryOf h
  exact List.concat_ne_nil name here

theorem WellFormed.removeFile (hwf : tree.WellFormed) (h : tree.removeFile r = .ok result) :
    result.WellFormed := by
  obtain ⟨p, hentry, hfile, rfl⟩ := exists_of_removeFile h
  exact hwf.erase (ne_nil_of_entryOf hentry) (isLeaf_iff.mpr fun name ↦ hwf.child_eq_none hfile)

theorem WellFormed.removeDirectory (hwf : tree.WellFormed)
    (h : tree.removeDirectory r = .ok result) : result.WellFormed := by
  obtain ⟨p, hentry, -, hleaf, rfl⟩ := removeDirectory_iff.mp h
  exact hwf.erase (ne_nil_of_entryOf hentry) hleaf

end FileTree

namespace Workspace

variable {tree : FileTree} {w w' : Workspace}

/-! ## Restoring -/

/-- A change that may fail keeps trees well formed if it does so when it succeeds. -/
theorem wellFormed_attempted (hwf : tree.WellFormed) {change : Except Fault FileTree}
    (h : ∀ result, change = .ok result → result.WellFormed) :
    (attempted tree change).2.WellFormed := by
  cases change with
  | ok result => exact h result rfl
  | error fault => exact hwf

theorem wellFormed_removeDirectories (hwf : tree.WellFormed) (routes : List Route) :
    (removeDirectories tree routes).WellFormed := by
  induction routes with
  | nil => exact hwf
  | cons r routes ih =>
    rw [removeDirectories, List.foldr_cons, ← removeDirectories]
    exact wellFormed_attempted ih fun _ ↦ ih.removeDirectory

theorem wellFormed_restore (hwf : tree.WellFormed) (target : BatchTarget) :
    (restore tree target).2.WellFormed := by
  cases hbackup : target.backup with
  | present content =>
    rw [restore_present hbackup]
    exact wellFormed_attempted hwf fun _ ↦ hwf.writeFile
  | absent missing =>
    rw [restore_absent hbackup]
    refine wellFormed_removeDirectories ?_ missing
    rw [removeWritten]
    split
    · exact wellFormed_attempted hwf fun _ ↦ hwf.removeFile
    · exact hwf

theorem wellFormed_rollBack (hwf : tree.WellFormed) (targets : List BatchTarget) :
    (rollBack tree targets).2.WellFormed := by
  induction targets generalizing tree with
  | nil => exact hwf
  | cons target targets ih =>
    rw [rollBack_cons]
    exact ih (wellFormed_restore hwf target)

/-! ## Writing -/

/-- A workspace differs from another in its tree only, and that is well formed. -/
def Rewritten (w w' : Workspace) : Prop := ∃ tree : FileTree, tree.WellFormed ∧ w' = { w with tree }

theorem Rewritten.refl (hwf : w.tree.WellFormed) : w.Rewritten w := ⟨w.tree, hwf, rfl⟩

theorem rewritten_writeText (hwf : w.tree.WellFormed) (path content : String) :
    w.Rewritten (w.writeText path content).2 := by
  rcases w.writeText_spec path content hwf with
    ⟨e, tree, hmakes, hwrite⟩ | ⟨tree, place, hwrites, hwrite⟩
  · rw [hwrite]
    exact ⟨_, hmakes.grown.wellFormed, rfl⟩
  · rw [hwrite]
    exact ⟨_, hwrites.grown.wellFormed, rfl⟩

theorem rewritten_writeTargets (hwf : w.tree.WellFormed) (written targets : List BatchTarget) :
    w.Rewritten (w.writeTargets written targets).2 := by
  induction targets generalizing w written with
  | nil => exact .refl hwf
  | cons target targets ih =>
    have hwritten := rewritten_writeText hwf target.edit.path target.edit.content
    cases hwrite : w.writeText target.edit.path target.edit.content with
    | mk result w' =>
      rw [hwrite] at hwritten
      obtain ⟨tree, htree, rfl⟩ := hwritten
      cases result with
      | ok =>
        have hrest := ih (w := { w with tree }) htree (target :: written)
        rw [writeTargets]
        simp only [hwrite]
        exact hrest
      | error e =>
        have hback := wellFormed_rollBack htree (target :: written)
        rw [writeTargets_of_error hwrite]
        split
        · exact ⟨_, hback, rfl⟩
        · exact ⟨_, hback, rfl⟩

theorem rewritten_writeBatch (hwf : w.tree.WellFormed) (edits : List FileEdit) :
    w.Rewritten (w.writeBatch edits).2 := by
  rw [writeBatch]
  split
  · exact .refl hwf
  · exact rewritten_writeTargets hwf [] _

/-- **Writing a change set changes the tree only, and keeps it well formed.** -/
theorem rewritten_write (hwf : w.tree.WellFormed) (changes : List FileChange) :
    w.Rewritten (ChangeSet.write surface changes w).2 := by
  match changes with
  | [] => exact rewritten_writeBatch hwf []
  | [change] =>
    change w.Rewritten (w.replaceFile change.path change.proposed).2
    rw [replaceFile_snd]
    exact rewritten_writeText hwf change.path change.proposed
  | first :: second :: more =>
    exact rewritten_writeBatch hwf ((first :: second :: more).map ChangeSet.editOf)

theorem rewritten_apply (hwf : w.tree.WellFormed) (changes : ChangeSet) :
    w.Rewritten (changes.apply surface w).2.2 := by
  have hdrift := ChangeSet.detectDrift_eq (S := surface) (s := w) (fun _ ↦ rfl) changes.changes
  have hwrite := rewritten_write hwf changes.changes
  simp only [ChangeSet.apply, hdrift]
  split
  next w' hwritten =>
    rw [hwritten] at hwrite
    exact hwrite
  next e w' hwritten =>
    rw [hwritten] at hwrite
    exact hwrite

end Workspace

end Redline
