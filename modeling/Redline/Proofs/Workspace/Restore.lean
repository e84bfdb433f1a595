import Redline.Proofs.FileTree.Touched
import Redline.Workspace.Batch

/-!
# Restoring the files of a batch

The files of a batch are restored one after another, and each takes what it has touched out of what
may differ from the tree before. When the last one has been restored nothing differs. What was a
directory when its turn came is reported as not restored, although there was nothing to restore.
-/

namespace Redline

open FileTree Route

variable {before after : FileTree} {files directories : List Route} {s : Route}
  {target : BatchTarget} {targets : List BatchTarget}

/-! ## Targets -/

/-- The backup of a target is of a tree in which its route is clear. -/
structure BatchTarget.Ready (before : FileTree) (target : BatchTarget) : Prop where
  clear : before.Clear target.route
  /-- The backup is of the tree. -/
  backup : (∃ p content, before.locate target.route = .ok (.file p (.text content) false) ∧
      target.backup = .present content) ∨
    before.doesExist target.route = false ∧
      target.backup = .absent ((above target.route).takeWhile (!before.doesExist ·)).reverse

namespace Workspace

/-! ## Removing directories -/

theorem removeDirectories_concat (routes : List Route) :
    removeDirectories after (routes ++ [s]) =
      removeDirectories (attempted after (after.removeDirectory s)).2 routes := by
  rw [removeDirectories, List.foldr_append]
  rfl

theorem attempted_keeps : (attempted after (after.removeDirectory s)).2.Keeps after := by
  cases hremove : after.removeDirectory s with
  | ok tree => exact keeps_of_removeDirectory hremove
  | error e => exact Keeps.refl after

theorem removeDirectories_keeps (routes : List Route) :
    (removeDirectories after routes).Keeps after := by
  induction routes with
  | nil => exact Keeps.refl after
  | cons s routes ih => exact Keeps.comp attempted_keeps ih

/-- Removing the missing directories above a route leaves only those that other routes need. -/
theorem touched_removeDirectories (hwf : before.WellFormed) (hs : Clean s)
    (hclear : ∀ m ∈ above s, before.Clear m) (hfiles : ∀ r ∈ files, above r ⊆ directories)
    (hdirectories : ∀ t ∈ directories, above t ⊆ directories)
    (h : before.Touched files (above s ++ directories) after) :
    before.Touched files directories
      (removeDirectories after ((above s).takeWhile (!before.doesExist ·)).reverse) := by
  -- The directories are removed from the innermost one outwards, which is how a route is built.
  induction hs generalizing after with
  | root => exact h
  | @under m xs name hm hxs hname ih =>
    rw [above_below hm hxs hname] at h hclear ⊢
    cases hexists : before.doesExist m with
    | true =>
      rw [List.takeWhile_cons_of_neg (by simp [hexists])]
      refine h.drop_directories hwf fun t ht ↦ ?_
      rcases List.mem_cons.mp ht with rfl | ht
      · exact hexists
      · exact doesExist_above hexists ht
    | false =>
      rw [List.takeWhile_cons_of_pos (by simp [hexists]), List.reverse_cons,
        removeDirectories_concat]
      refine ih (fun t ht ↦ hclear t (List.mem_cons_of_mem m ht)) ?_
      -- A directory that stays is not empty, so another target needs it.
      cases hremove : after.removeDirectory m with
      | ok tree => exact h.drop_removed hwf (hclear m List.mem_cons_self) hm hexists hremove
      | error e =>
        refine h.drop_kept hwf (fun r hr t ht ↦ ?_) (fun r hr t ht ↦ ?_) fun tree htree ↦ ?_
        · exact List.mem_append_right _ (hfiles r hr ht)
        · rcases List.mem_append.mp hr with hr | hr
          · exact List.mem_append_left _ ((of_mem_above hr).2.2 ht)
          · exact List.mem_append_right _ (hdirectories r hr ht)
        · exact absurd (hremove.symm.trans htree) nofun

/-! ## Restoring one file -/

def removeWritten (tree : FileTree) (route : Route) : Except Fault Unit × FileTree :=
  if tree.doesExist route then attempted tree (tree.removeFile route) else (.ok (), tree)

theorem restore_present {content : String} (h : target.backup = .present content) :
    restore after target = attempted after (after.writeFile target.route (.text content)) := by
  rw [restore, h]

theorem restore_absent {missing : List Route} (h : target.backup = .absent missing) :
    restore after target = ((removeWritten after target.route).1,
      removeDirectories (removeWritten after target.route).2 missing) := by
  rw [restore, h]
  rfl

/-- A new file is removed, and only a directory in its place prevents this. -/
theorem removeWritten_spec {r : Route} (hwf : before.WellFormed) (hclear : before.Clear r)
    (habsent : before.doesExist r = false) (h : before.Touched (r :: files) directories after) :
    before.Touched files directories (removeWritten after r).2 ∧
      (removeWritten after r).2.Keeps after ∧
      ((removeWritten after r).1 = .ok () ↔ after.isDirectory r = false) := by
  rw [removeWritten]
  cases hexists : after.doesExist r with
  | false =>
    have hnot : ¬after.doesExist r = true := Bool.eq_false_iff.mp hexists
    rw [doesExist_iff, not_or] at hnot
    refine ⟨h.drop_file hwf fun p content hfile ↦ hnot.2 ⟨p, content, hfile⟩, Keeps.refl after, ?_⟩
    refine iff_of_true rfl (Bool.eq_false_iff.mpr fun hdirectory ↦ ?_)
    exact hnot.1 (isDirectory_iff.mp hdirectory)
  | true =>
    rw [if_pos rfl]
    -- What stands there now is a directory, which stays, or the file that was written.
    rcases doesExist_iff.mp hexists with ⟨p, hp⟩ | ⟨p, content, hp⟩
    · have hdrop := h.drop_file hwf fun q content hfile ↦ absurd (hp.symm.trans hfile) nofun
      have hdirectory : after.isDirectory r = true := isDirectory_iff.mpr ⟨p, hp⟩
      cases hremove : after.removeFile r with
      | ok tree => exact absurd hremove (hclear.removeFile_ne hwf h.grown habsent hp)
      | error e =>
        refine ⟨hdrop, Keeps.refl after, iff_of_false nofun ?_⟩
        rw [hdirectory]
        exact nofun
    · obtain ⟨hremove, hnone⟩ := hclear.removeFile_eq hwf h.grown habsent hp
      have hnode : after.node? p = some (.file content) := h.grown.wellFormed.locate_stands hp
      have hleaf : after.isLeaf p = true :=
        isLeaf_iff.mpr fun name ↦ h.grown.wellFormed.child_eq_none (by rw [hnode]; exact nofun)
      rw [hremove]
      have hne : p ≠ [] := by
        rintro rfl
        exact absurd hnone nofun
      refine ⟨(h.erase hnone hleaf).drop_file hwf fun q content' hfile ↦ ?_, Keeps.of_erase hne,
        iff_of_true rfl (Bool.eq_false_iff.mpr fun hdirectory ↦ ?_)⟩
      · obtain ⟨content'', hother⟩ := (Keeps.of_erase hne).locate_file hfile
        obtain ⟨rfl, -, -⟩ := Place.file.inj (Except.ok.inj (hp.symm.trans hother))
        have hstands : (after.erase p).node? p = some (.file content') :=
          (h.grown.erase hnone hleaf).wellFormed.locate_stands hfile
        rw [node?_erase hne, if_pos rfl] at hstands
        exact absurd hstands nofun
      · obtain ⟨q, hq⟩ := isDirectory_iff.mp hdirectory
        exact absurd (hp.symm.trans hq) nofun

/-- Nothing but what some targets may have touched differs from the tree before. -/
def Restorable (before : FileTree) (targets : List BatchTarget) (after : FileTree) : Prop :=
  before.Touched (targets.map (·.route)) (targets.flatMap fun target ↦ above target.route) after

/-- **A target is restored unless there is a directory in its place.** In either case nothing of
what it has touched differs any more. -/
theorem restore_spec (hwf : before.WellFormed) (hready : target.Ready before)
    (h : Restorable before (target :: targets) after) :
    Restorable before targets (restore after target).2 ∧ (restore after target).2.Keeps after ∧
      ((restore after target).1 = .ok () ↔ after.isDirectory target.route = false) := by
  rw [Restorable, List.map_cons, List.flatMap_cons] at h
  -- With a text as its backup the file is written again, and no directory above it was missing.
  rcases hready.backup with ⟨p, content, hlocate, hbackup⟩ | ⟨habsent, hbackup⟩
  · obtain ⟨content', hother⟩ := h.grown.keeps.locate_file hlocate
    have hwrite : after.writeFile target.route (.text content) =
        .ok (after.set p (.file (.text content))) := writeFile_iff.mpr ⟨_, hother, rfl, rfl⟩
    have hnode : after.node? p = some (.file content') := h.grown.wellFormed.locate_stands hother
    have hexists : before.doesExist target.route = true :=
      doesExist_iff.mpr (Or.inr ⟨p, _, hlocate⟩)
    rw [restore_present hbackup, hwrite]
    refine ⟨(h.put_back hwf hlocate).drop_directories hwf fun m hm ↦ doesExist_above hexists hm,
      Keeps.of_set_file hnode, iff_of_true rfl (Bool.eq_false_iff.mpr fun hdirectory ↦ ?_)⟩
    obtain ⟨q, hq⟩ := isDirectory_iff.mp hdirectory
    exact absurd (hother.symm.trans hq) nofun
  · obtain ⟨htouched, hkeeps, hresult⟩ := removeWritten_spec hwf hready.clear habsent h
    rw [restore_absent hbackup]
    refine ⟨?_, (removeDirectories_keeps _).comp hkeeps, hresult⟩
    rw [← above_trimmed] at htouched ⊢
    refine touched_removeDirectories hwf (clean_trimmed _) (fun m hm ↦ ?_) (fun r hr m hm ↦ ?_)
      (fun m hm t ht ↦ ?_) htouched
    · rw [above_trimmed] at hm
      exact hready.clear.above hm
    · obtain ⟨other, hother, rfl⟩ := List.mem_map.mp hr
      exact List.mem_flatMap.mpr ⟨other, hother, hm⟩
    · obtain ⟨other, hother, hm⟩ := List.mem_flatMap.mp hm
      exact List.mem_flatMap.mpr ⟨other, hother, (of_mem_above hm).2.2 ht⟩

/-! ## Restoring all files -/

theorem rollBack_cons :
    rollBack after (target :: targets) =
      ((rollBack (restore after target).2 targets).1 ++
          (match (restore after target).1 with
          | .ok () => []
          | .error _ => [target.edit.path]),
        (rollBack (restore after target).2 targets).2) := by
  rw [rollBack]
  cases hrestore : restore after target with
  | mk result tree =>
    cases result with
    | ok => exact Prod.ext (List.append_nil _).symm rfl
    | error e => rfl

theorem isDirectory_restore (hkeeps : (restore after target).2.Keeps after)
    (hfree : ∀ t ∈ targets, after.isDirectory t.route = false) :
    ∀ t ∈ targets, (restore after target).2.isDirectory t.route = false := by
  intro t ht
  refine Bool.eq_false_iff.mpr fun hdirectory ↦ ?_
  exact absurd (hfree t ht) (by rw [hkeeps.isDirectory hdirectory]; exact nofun)

/-- If no target has a directory in its place, all are restored. -/
theorem rollBack_spec (hwf : before.WellFormed) (hready : ∀ t ∈ targets, t.Ready before)
    (h : Restorable before targets after)
    (hfree : ∀ t ∈ targets, after.isDirectory t.route = false) :
    (rollBack after targets).1 = [] ∧
      ∀ p, (rollBack after targets).2.node? p = before.node? p := by
  induction targets generalizing after with
  | nil => exact ⟨rfl, h.node?_eq⟩
  | cons target targets ih =>
    obtain ⟨hrestorable, hkeeps, hresult⟩ := restore_spec hwf (hready target List.mem_cons_self) h
    have hlater := isDirectory_restore hkeeps fun t ht ↦ hfree t (List.mem_cons_of_mem target ht)
    obtain ⟨hpaths, hsame⟩ :=
      ih (fun t ht ↦ hready t (List.mem_cons_of_mem target ht)) hrestorable hlater
    rw [rollBack_cons, hresult.mpr (hfree target List.mem_cons_self), hpaths]
    exact ⟨rfl, hsame⟩

/-- **The tree is always restored**, and only the target of the write that failed can be reported:
when it has a directory in its place. -/
theorem rollBack_failed (hwf : before.WellFormed) (hready : ∀ t ∈ target :: targets, t.Ready before)
    (h : Restorable before (target :: targets) after)
    (hfree : ∀ t ∈ targets, after.isDirectory t.route = false) :
    (rollBack after (target :: targets)).1 =
        (if after.isDirectory target.route then [target.edit.path] else []) ∧
      ∀ p, (rollBack after (target :: targets)).2.node? p = before.node? p := by
  obtain ⟨hrestorable, hkeeps, hresult⟩ := restore_spec hwf (hready target List.mem_cons_self) h
  obtain ⟨hpaths, hsame⟩ := rollBack_spec hwf (fun t ht ↦ hready t (List.mem_cons_of_mem target ht))
    hrestorable (isDirectory_restore hkeeps hfree)
  rw [rollBack_cons, hpaths]
  refine ⟨?_, hsame⟩
  cases hrestore : (restore after target).1 with
  | ok => rw [hresult.mp hrestore, if_neg Bool.false_ne_true, List.append_nil]
  | error e =>
    cases hdirectory : after.isDirectory target.route with
    | true => rw [if_pos rfl, List.nil_append]
    | false => exact absurd (hrestore.symm.trans (hresult.mpr hdirectory)) nofun

end Workspace

end Redline
