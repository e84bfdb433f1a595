import Mathlib.Data.List.Nodup
import Redline.Proofs.Workspace.Reading
import Redline.Reply.Basic

/-!
# Files that a change set overwrites

A change set is applied to a surface whose files can be read without changing them. Each change is
then compared with what is there before anything is written, and it is reported as drifted if that
is not its base.

For one of the changes it is said here what the surface has to do with its path so that it
overwrites the file whose content is its base. In memory the path must be that of the file, letter
by letter. In a workspace both must lead to the same place.
-/

namespace Redline

open Redline.Text

theorem MemoryFiles.read_iff {m : MemoryFiles} {path s : String} :
    m.read path = .ok s ↔ path ∉ m.unreadable ∧ m.files.get? path = some s := by
  rw [read]
  by_cases hunreadable : path ∈ m.unreadable
  · rw [if_pos (List.contains_iff_mem.mpr hunreadable)]
    exact iff_of_false nofun fun h ↦ h.1 hunreadable
  · rw [if_neg (mt List.contains_iff_mem.mp hunreadable)]
    cases m.files.get? path with
    | none => exact iff_of_false nofun fun h ↦ absurd h.2 nofun
    | some content =>
      rw [Except.ok.injEq, Option.some.injEq]
      exact (and_iff_right hunreadable).symm

/-! ## Drift -/

namespace ChangeSet

variable {σ : Type} {S : Surface σ} {s s' : σ} {cs : ChangeSet} {c : FileChange}
  {report : ApplyReport} {events : List Event}

theorem detectDrift_eq (hread : ∀ path, (S.read path s).2 = s) (changes : List FileChange) :
    detectDrift S changes s =
      ((changes.filter fun c ↦ isDrifted c (S.read c.path s).1).map FileChange.path, s) := by
  induction changes with
  | nil => rfl
  | cons c changes ih =>
    rw [detectDrift]
    simp only [hread, ih, List.filter_cons]
    split
    · rfl
    · rfl

theorem of_apply_eq_ok (hread : ∀ path, (S.read path s).2 = s)
    (h : cs.apply S s = (.ok report, events, s')) :
    write S cs.changes s = (.ok (), s') ∧ report.drifted =
      (cs.changes.filter fun c ↦ isDrifted c (S.read c.path s).1).map FileChange.path := by
  simp only [apply, detectDrift_eq hread] at h
  split at h
  next after hwrite =>
    obtain ⟨hreport, hrest⟩ := Prod.mk.inj h
    obtain ⟨-, rfl⟩ := Prod.mk.inj hrest
    obtain rfl := Except.ok.inj hreport
    exact ⟨hwrite, rfl⟩
  next => simp only [Prod.mk.injEq, reduceCtorEq, false_and] at h

theorem mem_drifted_iff (hread : ∀ path, (S.read path s).2 = s)
    (h : cs.apply S s = (.ok report, events, s')) (hc : c ∈ cs.changes) :
    c.path ∈ report.drifted ↔ isDrifted c (S.read c.path s).1 = true := by
  rw [(of_apply_eq_ok hread h).2, List.mem_map]
  constructor
  · rintro ⟨other, hother, hpath⟩
    obtain ⟨hmem, hdrifted⟩ := List.mem_filter.mp hother
    obtain rfl := List.inj_on_of_nodup_map cs.nodup hmem hc hpath
    exact hdrifted
  · exact fun hdrifted ↦ ⟨c, List.mem_filter.mpr ⟨hc, hdrifted⟩, rfl⟩

theorem notMem_drifted (hread : ∀ path, (S.read path s).2 = s)
    (h : cs.apply S s = (.ok report, events, s')) (hc : c ∈ cs.changes)
    (hbase : (S.read c.path s).1 = .ok c.base) : c.path ∉ report.drifted := by
  rw [mem_drifted_iff hread h hc, hbase, isDrifted, bne_self_eq_false]
  exact Bool.false_ne_true

/-! ## On both surfaces -/

def changeFor (file : ProposedFile) (f : FileSnapshot) : FileChange :=
  ⟨file.path, f.content, file.content⟩

/-- The captured file has been overwritten by what was proposed for it, and is not reported as
drifted. -/
def Overwritten (S : Surface σ) (file : ProposedFile) (f : FileSnapshot) (report : ApplyReport)
    (after : σ) : Prop :=
  (S.read f.path after).1 = .ok file.content ∧ file.path ∉ report.drifted

variable {file : ProposedFile} {f : FileSnapshot}

/-- **In memory the file shown is the file written if it is spelled alike**, and only then if the
change is one. -/
theorem overwritten_memory {m m' : MemoryFiles} (hc : changeFor file f ∈ cs.changes)
    (h : cs.apply MemoryFiles.surface m = (.ok report, events, m'))
    (hread : m.read f.path = .ok f.content)
    (hothers : ∀ path ∈ cs.paths, path ≠ file.path → path ≠ f.path) :
    (file.path = f.path → Overwritten MemoryFiles.surface file f report m') ∧
    (Overwritten MemoryFiles.surface file f report m' →
      file.path = f.path ∨ file.content = f.content) := by
  have hpure : ∀ path, (MemoryFiles.surface.read path m).2 = m := fun _ ↦ rfl
  obtain ⟨hwrite, -⟩ := of_apply_eq_ok hpure h
  have hwritable : ∀ c ∈ cs.changes, c.path ∉ m.unwritable := by
    by_contra hunwritable
    obtain ⟨e, hfailed⟩ : ∃ e, write MemoryFiles.surface cs.changes m = (.error e, m) :=
      write_of_unwritable (by simpa using hunwritable)
    rw [hwrite] at hfailed
    exact absurd (congrArg Prod.fst hfailed) nofun
  obtain rfl : m' = m.edited (cs.changes.map editOf) :=
    congrArg Prod.snd (hwrite.symm.trans (write_of_writable hwritable))
  have hmade := cs.made_edited m
  obtain ⟨hreadable, hcontent⟩ := MemoryFiles.read_iff.mp hread
  constructor
  · intro hpath
    refine ⟨MemoryFiles.read_iff.mpr ⟨hreadable, ?_⟩, notMem_drifted hpure h hc ?_⟩
    · rw [← hpath]
      exact hmade.proposed _ hc
    · rw [changeFor, hpath]
      exact hread
  · rintro ⟨hafter, -⟩
    by_cases hpath : file.path = f.path
    · exact .inl hpath
    · have hunnamed : f.path ∉ cs.paths := fun hmem ↦ hothers _ hmem (Ne.symm hpath) rfl
      have hwritten := (MemoryFiles.read_iff.mp hafter).2
      rw [hmade.others _ hunnamed, hcontent] at hwritten
      exact .inr (Option.some.inj hwritten).symm

/-- **In a workspace the file shown is the file written if the path leads there**, and only then if
the change is one. -/
theorem overwritten_workspace {w w' : Workspace} (hwf : w.tree.WellFormed)
    (hc : changeFor file f ∈ cs.changes) (hblank : isBlankText file.path = false)
    (h : cs.apply Workspace.surface w = (.ok report, events, w'))
    (hread : w.readFile f.path = .ok f.content)
    (hothers : ∀ path ∈ cs.paths, path ≠ file.path → ¬w'.SameFile path f.path) :
    (w.SameFile file.path f.path → Overwritten Workspace.surface file f report w') ∧
    (Overwritten Workspace.surface file f report w' →
      w'.SameFile file.path f.path ∨ file.content = f.content) := by
  have hpure : ∀ path, (Workspace.surface.read path w).2 = w := fun _ ↦ rfl
  obtain ⟨hwrite, -⟩ := of_apply_eq_ok hpure h
  have hwrote := Workspace.wrote_of_write hwf hwrite
  have hedit : ⟨file.path, file.content⟩ ∈ cs.changes.map editOf := List.mem_map_of_mem hc
  have hnodup : ((cs.changes.map editOf).map FileEdit.path).Nodup :=
    (map_path_editOf cs.changes).symm ▸ cs.nodup
  have hpaths : ∀ edit ∈ cs.changes.map editOf, edit.path ∈ cs.paths := by
    intro edit hmem
    rw [paths, ← map_path_editOf]
    exact List.mem_map_of_mem hmem
  constructor
  · intro hsame
    refine ⟨?_, notMem_drifted hpure h hc ?_⟩
    · exact hwrote.readFile_edited hwf hnodup hedit hread hsame fun other hother hne ↦
        hothers other.path (hpaths other hother) hne
    · exact hsame.readFile hblank hread
  · rintro ⟨hafter, -⟩
    by_cases hsame : w'.SameFile file.path f.path
    · exact .inl hsame
    · have hunedited : ∀ edit ∈ cs.changes.map editOf, ¬w'.SameFile edit.path f.path := by
        intro edit hmem hedited
        by_cases hpath : edit.path = file.path
        · exact hsame (hpath ▸ hedited)
        · exact hothers edit.path (hpaths edit hmem) hpath hedited
      have hunchanged := hwrote.readFile_unedited hwf hread hunedited
      exact .inr (Except.ok.inj (hunchanged.symm.trans hafter)).symm

/-- Spellings with the same normal form lead to the same file if they have no white space around
them. -/
theorem sameFile_of_apply {w w' : Workspace} (hwf : w.tree.WellFormed)
    (hc : changeFor file f ∈ cs.changes)
    (h : cs.apply Workspace.surface w = (.ok report, events, w'))
    (hread : w.readFile f.path = .ok f.content) (hfile : Trimmed file.path) (hf : Trimmed f.path)
    (hnormal : normalizePath file.path = normalizePath f.path) : w.SameFile file.path f.path := by
  have hpure : ∀ path, (Workspace.surface.read path w).2 = w := fun _ ↦ rfl
  obtain ⟨hwrite, -⟩ := of_apply_eq_ok hpure h
  let edit : FileEdit := ⟨file.path, file.content⟩
  have hedit : edit ∈ cs.changes.map editOf := List.mem_map_of_mem hc
  have hsame : w.SameFile edit.path f.path :=
    (Workspace.wrote_of_write hwf hwrite).sameFile_of_normalizePath hwf hedit hread hfile hf hnormal
  exact hsame

end ChangeSet

end Redline
