import Redline.Diff.Script

/-!
# Settling an edit script

A script can say the same in many ways: an inserted run between equal runs may slide over equal
lines, and neighbouring edits of one kind may be one edit. Settling moves every deletion, and then
every insertion, as far up as it goes and then as far down as it goes. On the way it slides over
equal lines, changes places with edits of the opposite kind, takes in edits of its own kind and
drops edits that have become empty.

An edit that changes places keeps its positions. What follows uses the positions of runs only, so
the position of an empty run may be stale.
-/

namespace Redline.Diff

variable {α : Type} [BEq α]

/-! ## One edit on the move -/

/-- An edit of a script with the edits before it, nearest first, and those after it. -/
structure Focus where
  /-- The edits before, the nearest first. -/
  before : List Edit
  /-- The edit on the move. -/
  edit : Edit
  /-- The edits after, in order. -/
  after : List Edit

/-- The weight of a list of edits, which falls with every step of an edit over them. -/
def weight : List Edit → Nat
  | [] => 0
  | e :: edits => e.length + 1 + weight edits

/-- How far an edit can slide up over the equal run before it. Only insertions slide. -/
def slackUp (old new : Array α) (prev edit : Edit) : Nat :=
  if edit.kind = .insert then
    commonSuffix old new (prev.old + prev.length) (edit.new + edit.length)
      (min prev.length edit.length)
  else 0

/-- How far an edit can slide down over the equal run after it. Only insertions slide. -/
def slackDown (old new : Array α) (edit next : Edit) : Nat :=
  if edit.kind = .insert then
    commonPrefix old new next.old edit.new (min next.length edit.length)
  else 0

/-- The edits after an insertion that slides up by `n`: the lines it passes are equal now. -/
def lengthenAfter (prev edit : Edit) (n : Nat) : List Edit → List Edit
  | next :: rest =>
    if next.kind = .equal then next.growLeft n :: rest
    else ⟨.equal, prev.old + prev.length - n, edit.new + edit.length - n, n⟩ :: next :: rest
  | [] => [⟨.equal, prev.old + prev.length - n, edit.new + edit.length - n, n⟩]

/-- The edits before an insertion that slides down by `n`: the lines it passes are equal now. -/
def lengthenBefore (edit next : Edit) (n : Nat) : List Edit → List Edit
  | prev :: rest =>
    if prev.kind = .equal then prev.growRight n :: rest
    else ⟨.equal, next.old, edit.new, n⟩ :: prev :: rest
  | [] => [⟨.equal, next.old, edit.new, n⟩]

/-- An edit put in front of others unless it is empty. -/
def consNonempty (e : Edit) (edits : List Edit) : List Edit :=
  if e.isEmpty then edits else e :: edits

theorem weight_consNonempty_le (e : Edit) (edits : List Edit) :
    weight (consNonempty e edits) ≤ e.length + 1 + weight edits := by
  unfold consNonempty
  split <;> simp [weight]

theorem slackUp_le (old new : Array α) (prev edit : Edit) :
    slackUp old new prev edit ≤ prev.length := by
  unfold slackUp
  split
  · exact Nat.le_trans (commonSuffix_le ..) (Nat.min_le_left ..)
  · exact Nat.zero_le _

theorem slackDown_le (old new : Array α) (edit next : Edit) :
    slackDown old new edit next ≤ next.length := by
  unfold slackDown
  split
  · exact Nat.le_trans (commonPrefix_le ..) (Nat.min_le_left ..)
  · exact Nat.zero_le _

def moveUp (old new : Array α) (before : List Edit) (edit : Edit) (after : List Edit) : Focus :=
  match before with
  | [] => ⟨[], edit, after⟩
  | prev :: rest =>
    if prev.kind = .equal then
      let n := slackUp old new prev edit
      if 0 < n then
        moveUp old new (consNonempty (prev.dropRight n) rest) (edit.shiftLeft n)
          (lengthenAfter prev edit n after)
      else if prev.isEmpty then moveUp old new rest edit after
      else ⟨prev :: rest, edit, after⟩
    else if prev.kind = edit.kind then moveUp old new rest (prev.growRight edit.length) after
    else moveUp old new rest edit (prev :: after)
termination_by weight before
decreasing_by
  · have := weight_consNonempty_le (prev.dropRight n) rest
    have bound : n ≤ prev.length := slackUp_le ..
    simp only [weight, Edit.dropRight, n] at *
    omega
  all_goals simp only [weight]; omega

def moveDown (old new : Array α) (before : List Edit) (edit : Edit) (after : List Edit) : Focus :=
  match after with
  | [] => ⟨before, edit, []⟩
  | next :: rest =>
    if next.kind = .equal then
      let n := slackDown old new edit next
      if 0 < n then
        moveDown old new (lengthenBefore edit next n before) (edit.shiftRight n)
          (consNonempty (next.dropLeft n) rest)
      else if next.isEmpty then moveDown old new before edit rest
      else ⟨before, edit, next :: rest⟩
    else if next.kind = edit.kind then moveDown old new before (edit.growRight next.length) rest
    else moveDown old new (next :: before) edit rest
termination_by weight after
decreasing_by
  · have := weight_consNonempty_le (next.dropLeft n) rest
    have bound : n ≤ next.length := slackDown_le ..
    simp only [weight, Edit.dropLeft, n] at *
    omega
  all_goals simp only [weight]; omega

/-! ## The whole script -/

/-- Moves every edit of a kind among `rest`, with `before` settled already, nearest first. The fuel
bounds the number of edits visited. -/
def settleKind (old new : Array α) (kind : EditKind) : Nat → List Edit → List Edit → List Edit
  | 0, before, rest => before.reverse ++ rest
  | _ + 1, before, [] => before.reverse
  | fuel + 1, before, e :: rest =>
    if e.kind = kind then
      let up := moveUp old new before e rest
      let down := moveDown old new up.before up.edit up.after
      settleKind old new kind fuel (down.edit :: down.before) down.after
    else settleKind old new kind fuel (e :: before) rest

/-- The script with its deletions and then its insertions settled. Every edit visited leaves less
behind it than there was, so the weight of the script bounds the visits. -/
def settle (old new : Array α) (script : List Edit) : List Edit :=
  let settled := settleKind old new .delete (2 * weight script + 1) [] script
  settleKind old new .insert (2 * weight settled + 1) [] settled

end Redline.Diff
