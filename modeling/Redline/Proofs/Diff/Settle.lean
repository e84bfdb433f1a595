import Redline.Proofs.Diff.Move

/-!
# Settling keeps a script in its places

Every move of an edit leads from the same places to the same places, so a settled script covers what
the script covered before.

Insertions that change places with deletions keep the old place that they name, which is then no
longer where they stand. For what comes before the first equal run this does no harm: an insertion
there names no place beyond what is deleted there. The invariant behind this is not one of the
script alone. An insertion that has slid up to the start can name any place, but then it slides down
again at once, over the lines that it came from.
-/

namespace Redline.Diff

variable {α : Type} {old new : Array α} {i j i' j' n : Nat}

/-! ## Before the first equal run -/

/-- The number of lines that a script deletes before its first equal run. -/
def headDeletes : List Edit → Nat
  | [] => 0
  | e :: script =>
    match e.kind with
    | .equal => 0
    | .delete => e.length + headDeletes script
    | .insert => headDeletes script

/-- Every insertion before the first equal run names an old place up to `bound`. -/
def HeadWithin (bound : Nat) : List Edit → Prop
  | [] => True
  | e :: script =>
    match e.kind with
    | .equal => True
    | .delete => HeadWithin bound script
    | .insert => e.old ≤ bound ∧ HeadWithin bound script

section

variable {bound : Nat} {d e p : Edit} {xs ys : List Edit}

theorem headDeletes_append_equal (hp : p.kind = .equal) :
    headDeletes (xs ++ p :: ys) = headDeletes xs := by
  induction xs with
  | nil => simp [headDeletes, hp]
  | cons x xs ih => cases hx : x.kind <;> simp [headDeletes, hx, ih]

theorem headWithin_append_equal (hp : p.kind = .equal) :
    HeadWithin bound (xs ++ p :: ys) ↔ HeadWithin bound xs := by
  induction xs with
  | nil => simp [HeadWithin, hp]
  | cons x xs ih => cases hx : x.kind <;> simp [HeadWithin, hx, ih]

theorem headDeletes_append_insert (hp : p.kind = .insert) :
    headDeletes (xs ++ p :: ys) = headDeletes (xs ++ ys) := by
  induction xs with
  | nil => simp [headDeletes, hp]
  | cons x xs ih => cases hx : x.kind <;> simp [headDeletes, hx, ih]

theorem headDeletes_swap (hd : d.kind ≠ .equal) (he : e.kind ≠ .equal) :
    headDeletes (xs ++ e :: d :: ys) = headDeletes (xs ++ d :: e :: ys) := by
  induction xs with
  | nil =>
    cases hdk : d.kind <;> cases hek : e.kind <;> simp_all [headDeletes, Nat.add_left_comm]
  | cons x xs ih => cases hx : x.kind <;> simp [headDeletes, hx, ih]

theorem headDeletes_merge (hd : d.kind ≠ .equal) (hkind : d.kind = e.kind) :
    headDeletes (xs ++ d.growRight e.length :: ys) = headDeletes (xs ++ d :: e :: ys) := by
  induction xs with
  | nil =>
    cases hk : d.kind with
    | equal => exact absurd hk hd
    | delete => simp [headDeletes, hk, ← hkind, Edit.growRight, Nat.add_assoc]
    | insert => simp [headDeletes, hk, ← hkind, Edit.growRight]
  | cons x xs ih => cases hx : x.kind <;> simp [headDeletes, hx, ih]

/-- An insertion in a list is bounded if nothing equal comes before it, and takes no part in the
bounds of the others. -/
theorem headWithin_append_insert (hp : p.kind = .insert) : HeadWithin bound (xs ++ p :: ys) ↔
    ((∀ x ∈ xs, x.kind ≠ .equal) → p.old ≤ bound) ∧ HeadWithin bound (xs ++ ys) := by
  induction xs with
  | nil => simp [HeadWithin, hp]
  | cons x xs ih => cases hx : x.kind <;> simp [HeadWithin, hx, ih, and_left_comm]

theorem headWithin_append_delete (hp : p.kind = .delete) :
    HeadWithin bound (xs ++ p :: ys) ↔ HeadWithin bound (xs ++ ys) := by
  induction xs with
  | nil => simp [HeadWithin, hp]
  | cons x xs ih => cases hx : x.kind <;> simp [HeadWithin, hx, ih]

theorem HeadWithin.erase (hp : p.kind ≠ .equal) (h : HeadWithin bound (xs ++ p :: ys)) :
    HeadWithin bound (xs ++ ys) := by
  cases hk : p.kind with
  | equal => exact absurd hk hp
  | delete => exact (headWithin_append_delete hk).mp h
  | insert => exact ((headWithin_append_insert hk).mp h).2

/-- A script whose insertions name no later place than the one where they stand keeps within what it
deletes. -/
theorem headWithin_of_coversBehind {script : List Edit}
    (h : CoversBehind old new i j script i' j') :
    HeadWithin (i + headDeletes script) script := by
  induction script generalizing i j with
  | nil => trivial
  | cons e script ih =>
    obtain ⟨⟨-, hbehind⟩, hrest⟩ := h
    cases hk : e.kind with
    | equal => simp [HeadWithin, hk]
    | delete =>
      have hwithin := ih hrest
      rw [Edit.span_delete hk, Nat.add_assoc] at hwithin
      simpa [HeadWithin, headDeletes, hk] using hwithin
    | insert =>
      have hwithin := ih hrest
      rw [Edit.span_insert hk, Nat.add_zero] at hwithin
      have hle := hbehind hk
      simp only [HeadWithin, headDeletes, hk]
      exact ⟨by omega, hwithin⟩

end

/-! ## The edit on the move -/

/-- Behind deletions comes an equal run whose first line is that of the edit, so that the edit can
slide down over it. -/
def Slides [BEq α] (old new : Array α) (e : Edit) : List Edit → Prop
  | [] => False
  | next :: rest =>
    match next.kind with
    | .equal => sameLine old new next.old e.new = true
    | .delete => Slides old new e rest
    | .insert => False

namespace Focus

def script (f : Focus) : List Edit := f.before.reverse ++ f.edit :: f.after

@[simp] theorem script_cons (prev e : Edit) (before after : List Edit) :
    script ⟨prev :: before, e, after⟩ = before.reverse ++ prev :: e :: after := by
  rw [script, List.reverse_cons, List.append_assoc, List.singleton_append]

/-- A change on the move in a script that covers its places. Insertions before the first equal run
keep within what is deleted there, except that the one on the move may name any place as long as it
can slide down again. -/
structure Placed [BEq α] (old new : Array α) (i j i' j' : Nat) (f : Focus) : Prop where
  covers : Covers old new i j f.script i' j'
  is_change : f.edit.kind ≠ .equal
  /-- The other insertions keep within what is deleted. -/
  others : HeadWithin (headDeletes f.script) (f.before.reverse ++ f.after)
  /-- So does the edit, or it can slide down. -/
  own : f.edit.kind = .insert → (∀ e ∈ f.before, e.kind ≠ .equal) →
    f.edit.old ≤ headDeletes f.script ∨ Slides old new f.edit f.after

variable [BEq α] {prev edit next : Edit} {before after : List Edit}

theorem Placed.mergeUp (hprev : prev.kind ≠ .equal) (hkind : prev.kind = edit.kind)
    (h : Placed old new i j i' j' ⟨prev :: before, edit, after⟩) :
    Placed old new i j i' j' ⟨before, prev.growRight edit.length, after⟩ := by
  obtain ⟨hcovers, -, hothers, -⟩ := h
  have hdeletes : headDeletes (before.reverse ++ prev.growRight edit.length :: after)
      = headDeletes (before.reverse ++ prev :: edit :: after) := headDeletes_merge hprev hkind
  rw [script_cons] at hcovers hothers
  rw [List.reverse_cons, List.append_assoc, List.singleton_append] at hothers
  refine ⟨hcovers.replace_tail fun x y ↦ Covers.merge hprev hkind, hprev, ?_, ?_⟩
  · rw [script, hdeletes]
    exact hothers.erase hprev
  · intro hinsert hbefore
    rw [script, hdeletes]
    exact Or.inl (((headWithin_append_insert (p := prev) hinsert).mp hothers).1
      fun e he ↦ hbefore e (List.mem_reverse.mp he))

theorem Placed.mergeDown (hkind : next.kind = edit.kind)
    (h : Placed old new i j i' j' ⟨before, edit, next :: after⟩) :
    Placed old new i j i' j' ⟨before, edit.growRight next.length, after⟩ := by
  obtain ⟨hcovers, hchange, hothers, hown⟩ := h
  have hdeletes : headDeletes (before.reverse ++ edit.growRight next.length :: after)
      = headDeletes (before.reverse ++ edit :: next :: after) :=
    headDeletes_merge hchange hkind.symm
  refine ⟨hcovers.replace_tail fun x y ↦ Covers.merge hchange hkind.symm, hchange, ?_, ?_⟩
  · rw [script, hdeletes]
    exact hothers.erase (hkind ▸ hchange)
  · intro hinsert hbefore
    rw [script, hdeletes]
    rcases hown hinsert hbefore with hle | hslides
    · exact Or.inl hle
    · rw [Slides, hkind.trans hinsert] at hslides
      exact hslides.elim

theorem Placed.swapUp (hprev : prev.kind ≠ .equal) (hkind : prev.kind ≠ edit.kind)
    (h : Placed old new i j i' j' ⟨prev :: before, edit, after⟩) :
    Placed old new i j i' j' ⟨before, edit, prev :: after⟩ := by
  obtain ⟨hcovers, hchange, hothers, hown⟩ := h
  have hdeletes : headDeletes (before.reverse ++ edit :: prev :: after)
      = headDeletes (before.reverse ++ prev :: edit :: after) := headDeletes_swap hprev hchange
  rw [script_cons] at hcovers hothers hown
  rw [List.reverse_cons, List.append_assoc, List.singleton_append] at hothers
  refine ⟨hcovers.replace_tail fun x y ↦ Covers.swap hprev hchange hkind, hchange, ?_, ?_⟩
  · rw [script, hdeletes]
    exact hothers
  · intro hinsert hbefore
    rw [script, hdeletes]
    -- Only a deletion can stand between the insertion and what it slides over.
    have hdelete : prev.kind = .delete := by
      rcases delete_insert_or_insert_delete hprev hchange hkind with h | h
      · exact h.1
      · exact absurd (h.1.trans hinsert.symm) hkind
    refine (hown hinsert fun e he ↦ ?_).imp_right fun hslides ↦ ?_
    · rcases List.mem_cons.mp he with rfl | he
      · exact hprev
      · exact hbefore e he
    · rw [Slides, hdelete]
      exact hslides

theorem Placed.swapDown (hnext : next.kind ≠ .equal) (hkind : next.kind ≠ edit.kind)
    (h : Placed old new i j i' j' ⟨before, edit, next :: after⟩) :
    Placed old new i j i' j' ⟨next :: before, edit, after⟩ := by
  obtain ⟨hcovers, hchange, hothers, hown⟩ := h
  have hdeletes : headDeletes (before.reverse ++ next :: edit :: after)
      = headDeletes (before.reverse ++ edit :: next :: after) := headDeletes_swap hchange hnext
  refine ⟨?_, hchange, ?_, ?_⟩
  · rw [script_cons]
    exact hcovers.replace_tail fun x y ↦ Covers.swap hchange hnext hkind.symm
  · rw [script_cons, hdeletes, List.reverse_cons, List.append_assoc, List.singleton_append]
    exact hothers
  · intro hinsert hbefore
    rw [script_cons, hdeletes]
    have hdelete : next.kind = .delete := by
      rcases delete_insert_or_insert_delete hnext hchange hkind with h | h
      · exact h.1
      · exact absurd (h.1.trans hinsert.symm) hkind
    refine (hown hinsert fun e he ↦ hbefore e (List.mem_cons_of_mem next he)).imp_right
      fun hslides ↦ ?_
    rwa [Slides, hdelete] at hslides

end Focus

/-! ## Sliding of the edit on the move -/

theorem exists_consNonempty_eq_cons {e : Edit} (he : e.kind = .equal) {x : Edit}
    (hx : x.kind = .equal) (xs : List Edit) :
    ∃ y ys, consNonempty e (x :: xs) = y :: ys ∧ y.kind = .equal := by
  rw [consNonempty]
  split
  · exact ⟨x, xs, rfl, hx⟩
  · exact ⟨e, x :: xs, rfl, he⟩

theorem exists_lengthenAfter_eq_cons (prev e : Edit) (n : Nat) (after : List Edit) :
    ∃ x xs, lengthenAfter prev e n after = x :: xs ∧ x.kind = .equal := by
  cases after with
  | nil => exact ⟨_, _, rfl, rfl⟩
  | cons next rest =>
    rw [lengthenAfter]
    split
    next hnext => exact ⟨_, _, rfl, hnext⟩
    next => exact ⟨_, _, rfl, rfl⟩

/-- The equal run made longer before an insertion that slides down is the last of what comes before,
and nothing changes before the first equal run. -/
theorem exists_lengthenBefore_eq_cons (e next : Edit) (n : Nat) (before : List Edit) :
    ∃ x xs, lengthenBefore e next n before = x :: xs ∧ x.kind = .equal ∧
      headDeletes xs.reverse = headDeletes before.reverse ∧
      ∀ bound, HeadWithin bound xs.reverse ↔ HeadWithin bound before.reverse := by
  cases before with
  | nil => exact ⟨_, _, rfl, rfl, rfl, fun _ ↦ Iff.rfl⟩
  | cons prev rest =>
    rw [lengthenBefore]
    split
    next hprev =>
      rw [List.reverse_cons]
      exact ⟨_, _, rfl, hprev, (headDeletes_append_equal hprev).symm,
        fun _ ↦ (headWithin_append_equal hprev).symm⟩
    next => exact ⟨_, _, rfl, rfl, rfl, fun _ ↦ Iff.rfl⟩

section

variable [BEq α] {prev edit next : Edit} {before after : List Edit}

theorem insert_of_slackUp_pos (h : 0 < slackUp old new prev edit) : edit.kind = .insert := by
  refine Decidable.byContradiction fun hkind ↦ ?_
  rw [slackUp, if_neg hkind] at h
  exact Nat.lt_irrefl 0 h

theorem insert_of_slackDown_pos (h : 0 < slackDown old new edit next) : edit.kind = .insert := by
  refine Decidable.byContradiction fun hkind ↦ ?_
  rw [slackDown, if_neg hkind] at h
  exact Nat.lt_irrefl 0 h

variable [LawfulBEq α]

/-- An insertion that has slid up can slide down again over the lines that it has passed. -/
theorem slides_of_slideUp (hprev : prev.kind = .equal) (he : edit.kind = .insert) (hpos : 0 < n)
    (hle : n ≤ prev.length) (h : Covers old new i j (prev :: edit :: after) i' j') :
    Slides old new (edit.shiftLeft n) (lengthenAfter prev edit n after) := by
  obtain ⟨hfitsPrev, hfitsEdit, hrest⟩ := h
  obtain ⟨-, rfl, rfl, hrun⟩ := (Edit.fits_equal hprev).mp hfitsPrev
  rw [Edit.span_equal hprev] at hfitsEdit hrest
  rw [Edit.span_insert he] at hrest
  obtain ⟨-, hnew, -⟩ := (Edit.fits_insert he).mp hfitsEdit
  have hold := hrun.old_le
  have hsame : sameLine old new (prev.old + prev.length - n) (edit.shiftLeft n).new = true := by
    have heq := hrun.getElem?_eq (prev.length - n) (by omega)
    have hplace : (edit.shiftLeft n).new = prev.new + (prev.length - n) := by
      simp only [Edit.shiftLeft]
      omega
    rw [hplace, show prev.old + prev.length - n = prev.old + (prev.length - n) by omega]
    exact sameLine_of_getElem?_eq (by omega) heq
  -- The lines passed stand right behind, alone or at the front of a longer run.
  cases after with
  | nil => exact hsame
  | cons next rest =>
    rw [lengthenAfter]
    split
    next hnext =>
      obtain ⟨-, hnextOld, -⟩ := (Edit.fits_equal hnext).mp hrest.1
      have hgrown : (next.growLeft n).kind = .equal := hnext
      rw [Slides, hgrown]
      simp only [Edit.growLeft, Edit.shiftLeft, hnextOld] at hsame ⊢
      exact hsame
    next => exact hsame

namespace Focus

theorem Placed.slideUp (hprev : prev.kind = .equal) (hn : n = slackUp old new prev edit)
    (hpos : 0 < n) (h : Placed old new i j i' j' ⟨prev :: before, edit, after⟩) :
    Placed old new i j i' j' ⟨consNonempty (prev.dropRight n) before, edit.shiftLeft n,
      lengthenAfter prev edit n after⟩ := by
  obtain ⟨hcovers, hchange, hothers, -⟩ := h
  have he : edit.kind = .insert := insert_of_slackUp_pos (hn ▸ hpos)
  have hdrop : (prev.dropRight n).kind = .equal := hprev
  have hshift : (edit.shiftLeft n).kind = .insert := he
  obtain ⟨x, xs, hafter, hx⟩ := exists_lengthenAfter_eq_cons prev edit n after
  obtain ⟨y, ys, hothers', hy⟩ := exists_consNonempty_eq_cons hdrop hx xs
  rw [script_cons] at hcovers hothers
  rw [List.reverse_cons, List.append_assoc, List.singleton_append, headDeletes_append_equal hprev,
    headWithin_append_equal hprev] at hothers
  -- Nothing changes before the first equal run: it is shrunk, or it gives way to the run after.
  have hdeletes : headDeletes (before.reverse ++
      consNonempty (prev.dropRight n) (edit.shiftLeft n :: x :: xs))
        = headDeletes before.reverse := by
    rw [consNonempty]
    split
    · rw [headDeletes_append_insert hshift, headDeletes_append_equal hx]
    · exact headDeletes_append_equal hdrop
  have hscript : script ⟨consNonempty (prev.dropRight n) before, edit.shiftLeft n,
      lengthenAfter prev edit n after⟩ = before.reverse ++
        consNonempty (prev.dropRight n) (edit.shiftLeft n :: lengthenAfter prev edit n after) :=
    consNonempty_reverse_append _ _ _
  refine ⟨?_, hchange, ?_, ?_⟩
  · rw [hscript]
    exact hcovers.replace_tail fun x y ↦ Covers.slideUp hprev he hn hpos
  · rw [hscript, hafter, hdeletes, consNonempty_reverse_append, hothers',
      headWithin_append_equal hy]
    exact hothers
  · intro _ _
    obtain ⟨x, y, -, htail⟩ := chain_append.mp hcovers
    exact Or.inr (slides_of_slideUp hprev he hpos (hn ▸ slackUp_le old new prev edit) htail)

theorem Placed.slideDown (hnext : next.kind = .equal) (hn : n = slackDown old new edit next)
    (hpos : 0 < n) (h : Placed old new i j i' j' ⟨before, edit, next :: after⟩) :
    Placed old new i j i' j' ⟨lengthenBefore edit next n before, edit.shiftRight n,
      consNonempty (next.dropLeft n) after⟩ := by
  obtain ⟨hcovers, hchange, hothers, -⟩ := h
  have he : edit.kind = .insert := insert_of_slackDown_pos (hn ▸ hpos)
  obtain ⟨x, xs, hbefore, hx, hdeletes, hwithin⟩ := exists_lengthenBefore_eq_cons edit next n before
  have hcovers' := Covers.slideDown hnext he hn hpos hcovers
  rw [script, headDeletes_append_insert he, headDeletes_append_equal hnext,
    headWithin_append_equal hnext] at hothers
  rw [hbefore] at hcovers' ⊢
  refine ⟨hcovers', hchange, ?_, ?_⟩
  · rw [script_cons, headDeletes_append_equal hx, hdeletes, List.reverse_cons, List.append_assoc,
      List.singleton_append, headWithin_append_equal hx, hwithin]
    exact hothers
  · intro _ hchanges
    exact absurd hx (hchanges x List.mem_cons_self)

omit [LawfulBEq α] in
/-- An edit that cannot slide down any further is an exception no more. -/
theorem Placed.headWithin {f : Focus} (h : f.Placed old new i j i' j')
    (hstop : f.edit.kind = .insert → ¬Slides old new f.edit f.after) :
    HeadWithin (headDeletes f.script) f.script := by
  cases hk : f.edit.kind with
  | equal => exact absurd hk h.is_change
  | delete => exact (headWithin_append_delete hk).mpr h.others
  | insert =>
    refine (headWithin_append_insert hk).mpr ⟨fun hbefore ↦ ?_, h.others⟩
    exact (h.own hk fun e he ↦ hbefore e (List.mem_reverse.mpr he)).resolve_right (hstop hk)

end Focus

/-- **Moving up keeps the places.** -/
theorem moveUp_placed (before : List Edit) (edit : Edit) (after : List Edit)
    (h : (⟨before, edit, after⟩ : Focus).Placed old new i j i' j') :
    (moveUp old new before edit after).Placed old new i j i' j' := by
  fun_induction moveUp old new before edit after with
  | case1 edit after => exact h
  | case2 edit after prev rest hprev n hpos ih => exact ih (h.slideUp hprev rfl hpos)
  | case3 edit after prev rest hprev n hpos hempty ih =>
    -- No edit of a covering script is empty, so there is no empty run to drop.
    have hlength : 0 < prev.length := h.covers.length_pos_of_mem (by simp [Focus.script])
    rw [Edit.isEmpty, beq_iff_eq] at hempty
    omega
  | case4 edit after prev rest hprev n hpos hempty => exact h
  | case5 edit after prev rest hprev hkind ih => exact ih (h.mergeUp hprev hkind)
  | case6 edit after prev rest hprev hkind ih => exact ih (h.swapUp hprev hkind)

/-- **Moving down keeps the places**, and it ends where the edit cannot slide any further. -/
theorem moveDown_placed (before : List Edit) (edit : Edit) (after : List Edit)
    (h : (⟨before, edit, after⟩ : Focus).Placed old new i j i' j') :
    (moveDown old new before edit after).Placed old new i j i' j' ∧
      ((moveDown old new before edit after).edit.kind = .insert →
        ¬Slides old new (moveDown old new before edit after).edit
          (moveDown old new before edit after).after) := by
  fun_induction moveDown old new before edit after with
  | case1 before edit => exact ⟨h, fun _ hslides ↦ hslides⟩
  | case2 before edit next rest hnext n hpos ih => exact ih (h.slideDown hnext rfl hpos)
  | case3 before edit next rest hnext n hpos hempty ih =>
    have hlength : 0 < next.length := h.covers.length_pos_of_mem (by simp [Focus.script])
    rw [Edit.isEmpty, beq_iff_eq] at hempty
    omega
  | case4 before edit next rest hnext n hpos hempty =>
    -- If the first line of the run were that of the edit, there would be slack to slide.
    refine ⟨h, fun hinsert hslides ↦ hpos ?_⟩
    have hlength : 0 < edit.length := h.covers.length_pos_of_mem (by simp [Focus.script])
    have hlength' : 0 < next.length := h.covers.length_pos_of_mem (by simp [Focus.script])
    rw [Slides, hnext] at hslides
    simp only [n, slackDown_insert hinsert]
    exact commonPrefix_pos hslides (Nat.lt_min.mpr ⟨hlength', hlength⟩)
  | case5 before edit next rest hnext hkind ih => exact ih (h.mergeDown hkind)
  | case6 before edit next rest hnext hkind ih => exact ih (h.swapDown hnext hkind)

/-! ## The whole script -/

/-- A script that covers its places and whose insertions before the first equal run keep within what
is deleted there. -/
structure Anchored (old new : Array α) (i j i' j' : Nat) (script : List Edit) : Prop where
  covers : Covers old new i j script i' j'
  /-- Insertions at its start keep within what is deleted there. -/
  head : HeadWithin (headDeletes script) script

omit [LawfulBEq α] in
theorem Anchored.placed {before : List Edit} {edit : Edit} {after : List Edit}
    (h : Anchored old new i j i' j' (before.reverse ++ edit :: after))
    (hchange : edit.kind ≠ .equal) :
    (⟨before, edit, after⟩ : Focus).Placed old new i j i' j' := by
  refine ⟨h.covers, hchange, h.head.erase hchange, fun hinsert hbefore ↦ Or.inl ?_⟩
  exact ((headWithin_append_insert (p := edit) hinsert).mp h.head).1
    fun e he ↦ hbefore e (List.mem_reverse.mp he)

theorem settleKind_anchored {kind : EditKind} (hkind : kind ≠ .equal) (fuel : Nat)
    (before rest : List Edit) (h : Anchored old new i j i' j' (before.reverse ++ rest)) :
    Anchored old new i j i' j' (settleKind old new kind fuel before rest) := by
  fun_induction settleKind old new kind fuel before rest with
  | case1 before rest => exact h
  | case2 fuel before => rwa [List.append_nil] at h
  | case3 fuel before e rest he up down ih =>
    have hup := moveUp_placed before e rest (h.placed (he ▸ hkind))
    obtain ⟨hdown, hstop⟩ := moveDown_placed up.before up.edit up.after hup
    refine ih ?_
    rw [List.reverse_cons, List.append_assoc, List.singleton_append]
    exact ⟨hdown.covers, hdown.headWithin hstop⟩
  | case4 fuel before e rest he ih =>
    refine ih ?_
    rwa [List.reverse_cons, List.append_assoc, List.singleton_append]

/-- **Settling keeps a script in its places.** -/
theorem settle_anchored {script : List Edit} (h : Anchored old new i j i' j' script) :
    Anchored old new i j i' j' (settle old new script) :=
  settleKind_anchored (by decide) _ _ _ (settleKind_anchored (by decide) _ _ _ h)

theorem settle_rawScript_anchored (old new : Array α) :
    Anchored old new 0 0 old.size new.size (settle old new (rawScript old new)) := by
  have hraw := coversBehind_rawScript old new
  have hhead := headWithin_of_coversBehind hraw
  rw [Nat.zero_add] at hhead
  exact settle_anchored ⟨hraw.covers, hhead⟩

end

end Redline.Diff
