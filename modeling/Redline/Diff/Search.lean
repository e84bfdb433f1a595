import Redline.Diff.Script

/-!
# Searching for an edit script

The search divides: what both ends have in common is equal, and the rest is split at a point of a
shortest path through the grid of old against new lines, found by advancing from both of its corners
at once. A path of `d` edits reaches furthest on the diagonals `-d, -d + 2, …, d`, and when the two
searches meet on a diagonal the start of the last equal run is the point of division.

The furthest points of both searches are kept in two tables that the whole search shares and never
clears. A point of division that does not divide, or that lies outside the ranges, is not followed:
the ranges are then deleted and inserted whole. The search therefore always ends, and its script is
valid whatever the tables hold.
-/

namespace Redline.Diff

/-! ## Furthest points -/

/-- For each diagonal the furthest old line reached on it. -/
structure Frontier where
  /-- The place of the diagonal zero. -/
  offset : Nat
  /-- The furthest points, by diagonal. -/
  reach : Array Nat

namespace Frontier

/-- A frontier at zero for diagonals between `-offset` and `offset`. -/
def start (offset : Nat) : Frontier := ⟨offset, Array.replicate (2 * offset + 1) 0⟩

def get (f : Frontier) (k : Int) : Nat := f.reach.getD (k + f.offset).toNat 0

def set (f : Frontier) (k : Int) (x : Nat) : Frontier :=
  { f with reach := f.reach.setIfInBounds (k + f.offset).toNat x }

/-- Where the search of depth `d` arrives on diagonal `k` before it follows equal lines: by an
insertion from the diagonal above or by a deletion from the diagonal below, whichever is further. -/
def arrive (f : Frontier) (d : Nat) (k : Int) : Nat :=
  if k = -d ∨ (k ≠ d ∧ f.get (k - 1) < f.get (k + 1)) then f.get (k + 1) else f.get (k - 1) + 1

end Frontier

/-- The furthest points of the search from the start and of that from the end. -/
structure Frontiers where
  /-- The search from the start. -/
  forward : Frontier
  /-- The search from the end. -/
  backward : Frontier

/-! ## The middle of a shortest path -/

/-- A part of the old and a part of the new sequence. -/
structure Window where
  /-- Where the old part starts. -/
  old : Nat
  /-- The length of the old part. -/
  oldLength : Nat
  /-- Where the new part starts. -/
  new : Nat
  /-- The length of the new part. -/
  newLength : Nat
deriving DecidableEq, Repr

namespace Window

/-- The diagonal of the end. -/
def delta (w : Window) : Int := (w.oldLength : Int) - (w.newLength : Int)

/-- Whether the diagonal of the end is odd, so that it is the search from the start that meets the
other. -/
def isOdd (w : Window) : Bool := w.delta % 2 != 0

end Window

variable {α : Type} [BEq α]

/-- One depth of the search from the start, over the diagonals `2 * n - d, …, -d`. -/
def sweepForward (old new : Array α) (w : Window) (d : Nat) :
    Nat → Frontiers → Frontiers × Option (Nat × Nat)
  | n, f =>
    let k : Int := 2 * n - d
    let x := f.forward.arrive d k
    let y := (x : Int) - k
    let run :=
      if x < w.oldLength ∧ 0 ≤ y ∧ y < w.newLength then
        commonPrefix old new (w.old + x) (w.new + y.toNat)
          (min (w.oldLength - x) (w.newLength - y.toNat))
      else 0
    let f := { f with forward := f.forward.set k (x + run) }
    if w.isOdd ∧ (k - w.delta).natAbs + 1 ≤ d ∧
        w.oldLength ≤ x + run + f.backward.get (-(k - w.delta)) then
      (f, some (w.old + x, w.new + y.toNat))
    else match n with
      | 0 => (f, none)
      | n + 1 => sweepForward old new w d n f

/-- One depth of the search from the end, over the diagonals `2 * n - d, …, -d`. -/
def sweepBackward (old new : Array α) (w : Window) (d : Nat) :
    Nat → Frontiers → Frontiers × Option (Nat × Nat)
  | n, f =>
    let k : Int := 2 * n - d
    let x := f.backward.arrive d k
    let y := (x : Int) - k
    let run :=
      if x < w.oldLength ∧ 0 ≤ y ∧ y < w.newLength then
        commonSuffix old new (w.old + w.oldLength - x) (w.new + w.newLength - y.toNat)
          (min (w.oldLength - x) (w.newLength - y.toNat))
      else 0
    let f := { f with backward := f.backward.set k (x + run) }
    if !w.isOdd ∧ (k - w.delta).natAbs ≤ d ∧
        w.oldLength ≤ x + run + f.forward.get (-(k - w.delta)) then
      (f, some (w.old + (w.oldLength - (x + run)), w.new + (w.newLength - (y.toNat + run))))
    else match n with
      | 0 => (f, none)
      | n + 1 => sweepBackward old new w d n f

/-- The search at the depths `d, d + 1, …` below `d + fuel`. -/
def searchMiddle (old new : Array α) (w : Window) :
    Nat → Nat → Frontiers → Frontiers × Option (Nat × Nat)
  | _, 0, f => (f, none)
  | d, fuel + 1, f =>
    match sweepForward old new w d d f with
    | (f, some point) => (f, some point)
    | (f, none) =>
      match sweepBackward old new w d d f with
      | (f, some point) => (f, some point)
      | (f, none) => searchMiddle old new w (d + 1) fuel f

/-- A point of division of a window, and the frontiers that the search left behind. -/
def middle (old new : Array α) (w : Window) (f : Frontiers) : Frontiers × Option (Nat × Nat) :=
  let f := ⟨f.forward.set 1 0, f.backward.set 1 0⟩
  searchMiddle old new w 0 ((w.oldLength + w.newLength + 1) / 2 + 1) f

/-! ## The division -/

/-- A point inside a window that is neither its start nor its end. -/
def Window.divides (w : Window) (x y : Nat) : Bool :=
  w.old ≤ x && x ≤ w.old + w.oldLength && w.new ≤ y && y ≤ w.new + w.newLength &&
    (x != w.old || y != w.new) && (x != w.old + w.oldLength || y != w.new + w.newLength)

/-- A window without the lines that both ends have in common, and how many those are at the start
and at the end. -/
def Window.trim (old new : Array α) (w : Window) : Nat × Window × Nat :=
  let front := commonPrefix old new w.old w.new (min w.oldLength w.newLength)
  let oldRest := w.oldLength - front
  let newRest := w.newLength - front
  let back := commonSuffix old new (w.old + w.oldLength) (w.new + w.newLength) (min oldRest newRest)
  (front, ⟨w.old + front, oldRest - back, w.new + front, newRest - back⟩, back)

/-- The script of a window: equal runs at both ends, and between them the scripts of the two parts
into which the rest is divided. -/
def search (old new : Array α) (w : Window) (f : Frontiers) : Frontiers × List Edit :=
  let front := (w.trim old new).1
  let core := (w.trim old new).2.1
  let back := (w.trim old new).2.2
  let ends (f : Frontiers) (inner : List Edit) : Frontiers × List Edit :=
    (f, edit? .equal w.old w.new front ++ inner ++
      edit? .equal (core.old + core.oldLength) (core.new + core.newLength) back)
  if core.oldLength = 0 ∨ core.newLength = 0 then
    ends f (edit? .delete core.old core.new core.oldLength ++
      edit? .insert core.old core.new core.newLength)
  else
    match middle old new core f with
    | (f, some (x, y)) =>
      if _h : core.divides x y then
        let (f, first) := search old new ⟨core.old, x - core.old, core.new, y - core.new⟩ f
        let (f, second) := search old new
          ⟨x, core.old + core.oldLength - x, y, core.new + core.newLength - y⟩ f
        ends f (first ++ second)
      else
        ends f [⟨.delete, core.old, core.new, core.oldLength⟩,
          ⟨.insert, core.old, core.new, core.newLength⟩]
    | (f, none) =>
      ends f [⟨.delete, core.old, core.new, core.oldLength⟩,
        ⟨.insert, core.old, core.new, core.newLength⟩]
termination_by w.oldLength + w.newLength
decreasing_by
  all_goals
    simp only [Window.divides, Bool.and_eq_true, decide_eq_true_eq, Bool.or_eq_true,
      bne_iff_ne] at _h
    have : core.oldLength ≤ w.oldLength := by simp only [core, Window.trim]; omega
    have : core.newLength ≤ w.newLength := by simp only [core, Window.trim]; omega
    simp only [core] at *
    omega

/-- The script of the search over two whole sequences. -/
def rawScript (old new : Array α) : List Edit :=
  let depth := (old.size + new.size + 1) / 2 + 1
  (search old new ⟨0, old.size, 0, new.size⟩ ⟨.start depth, .start depth⟩).2

end Redline.Diff
