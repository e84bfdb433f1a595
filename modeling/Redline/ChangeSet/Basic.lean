import Redline.Patch.Between

/-!
# Change sets

A *file change* proposes a content for one file, beside the content it is meant to replace; its
patch is the difference of the two. A *change set* is a list of file changes, at least one, with
every path at most once.
-/

namespace Redline

/-- The proposed replacement of one file. -/
structure FileChange where
  /-- The path of the file. -/
  path : String
  /-- The content that the proposal is meant to replace. -/
  base : String
  /-- The proposed content. -/
  proposed : String
deriving DecidableEq, Repr

namespace FileChange

/-- The difference between the base and the proposed content. -/
def patch (c : FileChange) : Patch := .between c.base c.proposed

/-- A change that leaves the file as it was. -/
def isNoop (c : FileChange) : Bool := c.patch.isEmpty

end FileChange

/-- Why a list of file changes is not a change set. -/
inductive ChangeSetError
  /-- There is no change. -/
  | empty
  /-- A path is given twice. -/
  | duplicatePath (path : String)
deriving DecidableEq, Repr

def ChangeSetError.message : ChangeSetError → String
  | .empty => "a change set must touch at least one file"
  | .duplicatePath path => "path " ++ path ++ " appears more than once in the change set"

/-- The first of some texts that also stands before it, in the list or among `seen`. -/
def firstRepeated? (seen : List String) : List String → Option String
  | [] => none
  | x :: xs => if seen.contains x then some x else firstRepeated? (x :: seen) xs

theorem nodup_of_firstRepeated?_eq_none {seen xs : List String}
    (h : firstRepeated? seen xs = none) : xs.Nodup ∧ ∀ x ∈ xs, x ∉ seen := by
  induction xs generalizing seen with
  | nil => simp
  | cons x xs ih =>
    rw [firstRepeated?] at h
    split at h
    · simp at h
    · rename_i hx
      have := ih h
      simp only [List.contains_eq_mem, decide_eq_true_eq] at hx
      grind

/-- File changes with distinct paths, at least one. -/
structure ChangeSet where
  /-- The changes in the order in which they were proposed. -/
  changes : List FileChange
  /-- There is a change. -/
  nonempty : changes ≠ []
  /-- No path is given twice. -/
  nodup : (changes.map FileChange.path).Nodup
deriving DecidableEq, Repr

namespace ChangeSet

/-- The change set of the given changes. -/
def ofChanges (changes : List FileChange) : Except ChangeSetError ChangeSet :=
  if nonempty : changes = [] then .error .empty
  else match nodup : firstRepeated? [] (changes.map FileChange.path) with
    | some path => .error (.duplicatePath path)
    | none => .ok ⟨changes, nonempty, (nodup_of_firstRepeated?_eq_none nodup).1⟩

/-- The change set of one change. -/
def single (change : FileChange) : ChangeSet := ⟨[change], by simp, by simp⟩

def get? (cs : ChangeSet) (path : String) : Option FileChange :=
  cs.changes.find? fun c ↦ c.path == path

def paths (cs : ChangeSet) : List String := cs.changes.map FileChange.path

end ChangeSet

end Redline
