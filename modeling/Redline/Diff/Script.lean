/-!
# Edit scripts

An *edit script* says how one sequence of lines becomes another: runs that are equal in both, runs
that are deleted from the old and runs that are inserted from the new. An edit names its run by
where it starts in the old and in the new sequence and by its length; the run of a deletion is empty
in the new sequence and that of an insertion is empty in the old.

Two lines are compared by position, so that the algorithms below work on indices alone.
-/

namespace Redline.Diff

/-! ## Comparing lines -/

/-- The lines at two positions exist and are equal. -/
def sameLine {α : Type} [BEq α] (old new : Array α) (i j : Nat) : Bool :=
  match old[i]?, new[j]? with
  | some a, some b => a == b
  | _, _ => false

/-- The number of equal lines from `i` in the old and `j` in the new sequence on, at most `limit`.
-/
def commonPrefix {α : Type} [BEq α] (old new : Array α) (i j : Nat) : Nat → Nat
  | 0 => 0
  | limit + 1 => if sameLine old new i j then commonPrefix old new (i + 1) (j + 1) limit + 1 else 0

/-- The number of equal lines right before `i` in the old and `j` in the new sequence, at most
`limit`. -/
def commonSuffix {α : Type} [BEq α] (old new : Array α) (i j : Nat) : Nat → Nat
  | 0 => 0
  | limit + 1 =>
    if 0 < i ∧ 0 < j ∧ sameLine old new (i - 1) (j - 1) then
      commonSuffix old new (i - 1) (j - 1) limit + 1
    else 0

theorem commonPrefix_le {α : Type} [BEq α] (old new : Array α) (i j limit : Nat) :
    commonPrefix old new i j limit ≤ limit := by
  induction limit generalizing i j with
  | zero => simp [commonPrefix]
  | succ limit ih =>
    rw [commonPrefix]
    split
    · exact Nat.succ_le_succ (ih _ _)
    · exact Nat.zero_le _

theorem commonSuffix_le {α : Type} [BEq α] (old new : Array α) (i j limit : Nat) :
    commonSuffix old new i j limit ≤ limit := by
  induction limit generalizing i j with
  | zero => simp [commonSuffix]
  | succ limit ih =>
    rw [commonSuffix]
    split
    · exact Nat.succ_le_succ (ih _ _)
    · exact Nat.zero_le _

/-! ## Edits -/

inductive EditKind
  /-- The run is in both sequences. -/
  | equal
  /-- The run is in the old sequence only. -/
  | delete
  /-- The run is in the new sequence only. -/
  | insert
deriving DecidableEq, Repr

/-- One edit of a script. -/
structure Edit where
  /-- What the edit does. -/
  kind : EditKind
  /-- Where its run starts in the old sequence, or would start. -/
  old : Nat
  /-- Where its run starts in the new sequence, or would start. -/
  new : Nat
  /-- The length of the run. -/
  length : Nat
deriving DecidableEq, Repr

namespace Edit

def oldLength (e : Edit) : Nat := if e.kind = .insert then 0 else e.length

def newLength (e : Edit) : Nat := if e.kind = .delete then 0 else e.length

def isEmpty (e : Edit) : Bool := e.length == 0

/-- The edit with its run one place earlier for each of `n`. -/
def shiftLeft (e : Edit) (n : Nat) : Edit := { e with old := e.old - n, new := e.new - n }

/-- The edit with its run one place later for each of `n`. -/
def shiftRight (e : Edit) (n : Nat) : Edit := { e with old := e.old + n, new := e.new + n }

/-- The edit with `n` lines more at the start of its run. -/
def growLeft (e : Edit) (n : Nat) : Edit := { e.shiftLeft n with length := e.length + n }

/-- The edit with `n` lines more at the end of its run. -/
def growRight (e : Edit) (n : Nat) : Edit := { e with length := e.length + n }

/-- The edit without the last `n` lines of its run. -/
def dropRight (e : Edit) (n : Nat) : Edit := { e with length := e.length - n }

/-- The edit without the first `n` lines of its run. -/
def dropLeft (e : Edit) (n : Nat) : Edit := { e.shiftRight n with length := e.length - n }

end Edit

/-- The edit of a kind with the given run, unless the run is empty. -/
def edit? (kind : EditKind) (old new length : Nat) : List Edit :=
  if length = 0 then [] else [⟨kind, old, new, length⟩]

end Redline.Diff
