import Redline.ChangeSet.Apply
import Redline.Surface.Memory

/-!
# Change sets applied to files in memory

A change set reaches its surface by one of two calls, the replacement of one file or a batch of
several. Over files in memory both come to the same: if all its paths can be written, the table is
the one with all edits made, and otherwise nothing happens.

A batch is staged edit by edit and may stop at any of them, but until the last edit is staged only
the copy has changed. That the copy then holds every proposed content, and not a later one for the
same path, is due to the paths of a change set being distinct.
-/

namespace Redline

/-! ## Edits one after another -/

namespace FileTable

/-- The table with edits made in order. -/
def edited (files : FileTable) (edits : List FileEdit) : FileTable :=
  edits.foldl (fun files edit ↦ files.set edit.path edit.content) files

variable {files : FileTable} {edits : List FileEdit} {edit : FileEdit} {path : String}

@[simp] theorem edited_nil : files.edited [] = files := rfl

@[simp] theorem edited_cons :
    files.edited (edit :: edits) = (files.set edit.path edit.content).edited edits := rfl

theorem get?_edited_of_notMem (h : path ∉ edits.map FileEdit.path) :
    (files.edited edits).get? path = files.get? path := by
  induction edits generalizing files with
  | nil => rfl
  | cons edit edits ih =>
    rw [List.map_cons, List.mem_cons, not_or] at h
    rw [edited_cons, ih h.2, get?_set, if_neg h.1]

theorem get?_edited_of_mem (hdistinct : (edits.map FileEdit.path).Nodup) (h : edit ∈ edits) :
    (files.edited edits).get? edit.path = some edit.content := by
  induction edits generalizing files with
  | nil => exact absurd h List.not_mem_nil
  | cons first edits ih =>
    rw [List.map_cons, List.nodup_cons] at hdistinct
    rw [edited_cons]
    rcases List.mem_cons.mp h with rfl | h
    · rw [get?_edited_of_notMem hdistinct.1, get?_set, if_pos rfl]
    · exact ih hdistinct.2 h

end FileTable

/-! ## Both ways to write -/

namespace MemoryFiles

variable {unwritable : List String} {edits : List FileEdit}

theorem stage_of_writable (files : FileTable) (h : ∀ edit ∈ edits, edit.path ∉ unwritable) :
    stage unwritable files edits = .ok (files.edited edits) := by
  induction edits generalizing files with
  | nil => rfl
  | cons edit edits ih =>
    obtain ⟨hedit, hedits⟩ := List.forall_mem_cons.mp h
    rw [stage, if_neg (by simpa using hedit), ih _ hedits, FileTable.edited_cons]

/-- Staging fails at the first path that cannot be written, wherever in the batch it is. -/
theorem stage_of_unwritable (files : FileTable) (h : ∃ edit ∈ edits, edit.path ∈ unwritable) :
    ∃ e, stage unwritable files edits = .error e := by
  induction edits generalizing files with
  | nil =>
    obtain ⟨edit, hmem, -⟩ := h
    exact absurd hmem List.not_mem_nil
  | cons first edits ih =>
    rw [stage]
    by_cases hfirst : unwritable.contains first.path
    · rw [if_pos hfirst]
      exact ⟨_, rfl⟩
    · rw [if_neg hfirst]
      refine ih _ ?_
      obtain ⟨edit, hmem, hedit⟩ := h
      rcases List.mem_cons.mp hmem with rfl | hmem
      · exact absurd (List.contains_iff_mem.mpr hedit) hfirst
      · exact ⟨edit, hmem, hedit⟩

def edited (m : MemoryFiles) (edits : List FileEdit) : MemoryFiles :=
  { m with files := m.files.edited edits }

theorem batch_of_writable (m : MemoryFiles) (h : ∀ edit ∈ edits, edit.path ∉ m.unwritable) :
    surface.batch edits m = (.ok (), m.edited edits) := by
  simp only [surface, batch, stage_of_writable m.files h, commit, edited]

theorem batch_of_unwritable (m : MemoryFiles) (h : ∃ edit ∈ edits, edit.path ∈ m.unwritable) :
    ∃ e, surface.batch edits m = (.error e, m) := by
  obtain ⟨e, he⟩ := stage_of_unwritable m.files h
  exact ⟨e, by simp only [surface, batch, he, commit]⟩

theorem replace_of_writable (m : MemoryFiles) (edit : FileEdit) (h : edit.path ∉ m.unwritable) :
    surface.replace edit.path edit.content m = (.ok (), m.edited [edit]) := by
  simp only [surface, replace, if_neg (mt List.contains_iff_mem.mp h), commit, edited,
    FileTable.edited_cons, FileTable.edited_nil]

theorem replace_of_unwritable (m : MemoryFiles) (edit : FileEdit) (h : edit.path ∈ m.unwritable) :
    ∃ e, surface.replace edit.path edit.content m = (.error e, m) :=
  ⟨_, by simp only [surface, replace, if_pos (List.contains_iff_mem.mpr h), commit]; rfl⟩

end MemoryFiles

/-! ## All or nothing -/

namespace ChangeSet

variable {m : MemoryFiles}

def editOf (c : FileChange) : FileEdit := ⟨c.path, c.proposed⟩

theorem map_path_editOf (changes : List FileChange) :
    (changes.map editOf).map FileEdit.path = changes.map FileChange.path := by
  rw [List.map_map]
  rfl

theorem detectDrift_memory (changes : List FileChange) (m : MemoryFiles) :
    (detectDrift MemoryFiles.surface changes m).2 = m := by
  induction changes with
  | nil => rfl
  | cons change changes ih => exact ih

theorem write_of_writable {changes : List FileChange}
    (h : ∀ c ∈ changes, c.path ∉ m.unwritable) :
    write MemoryFiles.surface changes m = (.ok (), m.edited (changes.map editOf)) := by
  have hbatch : MemoryFiles.surface.batch (changes.map editOf) m
      = (.ok (), m.edited (changes.map editOf)) :=
    MemoryFiles.batch_of_writable m (List.forall_mem_map.mpr h)
  match changes with
  | [] => exact hbatch
  | [c] => exact MemoryFiles.replace_of_writable m (editOf c) (h c (by simp))
  | _ :: _ :: _ => exact hbatch

theorem write_of_unwritable {changes : List FileChange}
    (h : ∃ c ∈ changes, c.path ∈ m.unwritable) :
    ∃ e, write MemoryFiles.surface changes m = (.error e, m) := by
  obtain ⟨c, hmem, hc⟩ := h
  have hbatch := MemoryFiles.batch_of_unwritable m
    ⟨editOf c, List.mem_map_of_mem hmem, hc⟩
  match changes with
  | [] => exact hbatch
  | [_] =>
    obtain rfl := List.mem_singleton.mp hmem
    exact MemoryFiles.replace_of_unwritable m (editOf c) hc
  | _ :: _ :: _ => exact hbatch

/-- Exactly the changes of a change set are made: their paths hold the proposed contents, and
everything else is as before. -/
structure Made (cs : ChangeSet) (before after : MemoryFiles) : Prop where
  /-- Every path holds its proposed content. -/
  proposed : ∀ c ∈ cs.changes, after.files.get? c.path = some c.proposed
  /-- Every other path holds what it held, or nothing if there was nothing. -/
  others : ∀ path ∉ cs.paths, after.files.get? path = before.files.get? path
  focus_eq : after.focus = before.focus
  unreadable_eq : after.unreadable = before.unreadable
  unwritable_eq : after.unwritable = before.unwritable

theorem made_edited (cs : ChangeSet) (m : MemoryFiles) :
    cs.Made m (m.edited (cs.changes.map editOf)) where
  proposed c hc := by
    have hmem : editOf c ∈ cs.changes.map editOf := List.mem_map_of_mem hc
    exact FileTable.get?_edited_of_mem ((map_path_editOf cs.changes).symm ▸ cs.nodup) hmem
  others _ hpath := FileTable.get?_edited_of_notMem ((map_path_editOf cs.changes).symm ▸ hpath)
  focus_eq := rfl
  unreadable_eq := rfl
  unwritable_eq := rfl

/-- **A change set is applied to files in memory as a whole or not at all**, and it is applied
exactly if all its paths can be written. Whether they can be read does not matter. -/
theorem apply_memory_all_or_nothing (cs : ChangeSet) (m : MemoryFiles) :
    let (result, _, after) := cs.apply MemoryFiles.surface m
    (match result with
      | .ok _ => cs.Made m after
      | .error _ => after = m) ∧
    ((∃ report, result = .ok report) ↔ ∀ path ∈ cs.paths, path ∉ m.unwritable) := by
  by_cases hwritable : ∀ c ∈ cs.changes, c.path ∉ m.unwritable
  · simp only [apply, detectDrift_memory, write_of_writable hwritable]
    refine ⟨cs.made_edited m, fun _ ↦ ?_, fun _ ↦ ⟨_, rfl⟩⟩
    exact List.forall_mem_map.mpr hwritable
  · obtain ⟨e, hwrite⟩ : ∃ e, write MemoryFiles.surface cs.changes m = (.error e, m) :=
      write_of_unwritable (by simpa using hwritable)
    simp only [apply, detectDrift_memory, hwrite]
    refine ⟨trivial, ?_, fun hpaths ↦ absurd (List.forall_mem_map.mp hpaths) hwritable⟩
    rintro ⟨report, hreport⟩
    exact absurd hreport nofun

end ChangeSet

end Redline
