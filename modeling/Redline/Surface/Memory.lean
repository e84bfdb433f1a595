import Redline.Surface.Basic

/-!
# Files in memory

A surface whose files are a table of paths and contents. Paths are compared as they are spelled.
Single paths can be made unreadable or unwritable. A batch is tried on a copy of the table, which
takes the place of the table only when every edit succeeded.
-/

namespace Redline

/-- Contents by path, with every path at most once. -/
abbrev FileTable := List (String × String)

namespace FileTable

/-- The content of a file. -/
def get? (files : FileTable) (path : String) : Option String := files.lookup path

/-- The table with a file set to a content, in its old place if it has one. -/
def set : FileTable → String → String → FileTable
  | [], path, content => [(path, content)]
  | (p, c) :: rest, path, content =>
    if p = path then (path, content) :: rest else (p, c) :: FileTable.set rest path content

/-- The table without a file. -/
def erase (files : FileTable) (path : String) : FileTable := files.filter fun (p, _) ↦ p != path

theorem get?_set (files : FileTable) (path content other : String) :
    (files.set path content).get? other =
      if other = path then some content else files.get? other := by
  induction files with
  | nil =>
    by_cases h : other = path
    · simp [set, get?, h]
    · simp [set, get?, List.lookup_cons, h, beq_eq_false_iff_ne.mpr h]
  | cons entry rest ih =>
    obtain ⟨p, c⟩ := entry
    simp only [get?] at ih ⊢
    by_cases hp : p = path
    · subst hp
      by_cases h : other = p
      · simp [set, h]
      · simp [set, List.lookup_cons, h, beq_eq_false_iff_ne.mpr h]
    · by_cases h : other = p
      · subst h
        simp [set, hp]
      · simp [set, hp, List.lookup_cons, beq_eq_false_iff_ne.mpr h, ih]

end FileTable

/-- Files in memory, the focused path, and the paths that fail. -/
structure MemoryFiles where
  /-- The files. -/
  files : FileTable := []
  /-- The focused path. -/
  focus : Option String := none
  /-- The paths that cannot be read. -/
  unreadable : List String := []
  /-- The paths that cannot be written. -/
  unwritable : List String := []

namespace MemoryFiles

/-- Reads a file. -/
def read (m : MemoryFiles) (path : String) : Except SurfaceError String :=
  if m.unreadable.contains path then .error (.read path "permission denied")
  else match m.files.get? path with
    | some content => .ok content
    | none => .error (.notFound path)

/-- Reads the focused file. -/
def active (m : MemoryFiles) : Except SurfaceError (Option FileSnapshot) :=
  match m.focus with
  | none => .ok none
  | some path =>
    match m.read path with
    | .ok content => .ok (some ⟨path, content⟩)
    | .error e => .error e

/-- Replaces a file. -/
def replace (m : MemoryFiles) (path content : String) : Except SurfaceError MemoryFiles :=
  if m.unwritable.contains path then .error (.write path "read-only file")
  else .ok { m with files := m.files.set path content }

/-- The table after the edits, in order, or the error of the first that fails. -/
def stage (unwritable : List String) : FileTable → List FileEdit → Except SurfaceError FileTable
  | files, [] => .ok files
  | files, edit :: edits =>
    if unwritable.contains edit.path then .error (.batchRejected (edit.path ++ " is read-only"))
    else stage unwritable (files.set edit.path edit.content) edits

/-- Replaces several files, or none. -/
def batch (m : MemoryFiles) (edits : List FileEdit) : Except SurfaceError MemoryFiles :=
  match stage m.unwritable m.files edits with
  | .ok files => .ok { m with files := files }
  | .error e => .error e

/-- The new state of a change that may fail: a failed change leaves the state as it was. -/
def commit (m : MemoryFiles) :
    Except SurfaceError MemoryFiles → Except SurfaceError Unit × MemoryFiles
  | .ok m' => (.ok (), m')
  | .error e => (.error e, m)

/-- Files in memory as a surface. -/
def surface : Surface MemoryFiles where
  read path m := (m.read path, m)
  active m := (m.active, m)
  replace path content m := m.commit (m.replace path content)
  batch edits m := m.commit (m.batch edits)

end MemoryFiles

end Redline
