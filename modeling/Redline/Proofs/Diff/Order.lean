import Redline.Proofs.Diff.Group
import Redline.Proofs.Diff.Step

/-!
# Deletions stay in order

A deletion never changes the place that it names in the new sequence, and no deletion comes past
another one: they meet only to become one, which names the place of the first. So the deletions of a
settled script name places in order, as they do when the search has found them, and so do the mere
deletions among blocks and in groups.
-/

namespace Redline.Diff

open scoped List

variable {α : Type} {old new : Array α} {i j i' j' n radius : Nat}

/-! ## The places that deletions name -/

/-- The new place that an edit names if it is a deletion. -/
def Edit.deletedPlace (e : Edit) : List Nat := if e.kind = .delete then [e.new] else []

/-- The new places that the deletions of a script name. -/
def deletedPlaces (script : List Edit) : List Nat := script.flatMap Edit.deletedPlace

section

variable {e : Edit} {xs ys script : List Edit}

theorem Edit.deletedPlace_of_ne (h : e.kind ≠ .delete) : e.deletedPlace = [] := if_neg h

theorem deletedPlaces_append :
    deletedPlaces (xs ++ ys) = deletedPlaces xs ++ deletedPlaces ys := List.flatMap_append

theorem deletedPlaces_cons :
    deletedPlaces (e :: script) = e.deletedPlace ++ deletedPlaces script := List.flatMap_cons

theorem deletedPlaces_cons_of_ne (h : e.kind ≠ .delete) :
    deletedPlaces (e :: script) = deletedPlaces script := by
  rw [deletedPlaces_cons, Edit.deletedPlace_of_ne h, List.nil_append]

theorem deletedPlaces_cons_of_equal (h : e.kind = .equal) :
    deletedPlaces (e :: script) = deletedPlaces script := deletedPlaces_cons_of_ne (h ▸ nofun)

theorem deletedPlaces_cons_of_insert (h : e.kind = .insert) :
    deletedPlaces (e :: script) = deletedPlaces script := deletedPlaces_cons_of_ne (h ▸ nofun)

theorem deletedPlaces_edit?_of_ne (kind : EditKind) (h : kind ≠ .delete) {i j : Nat} :
    deletedPlaces (edit? kind i j n) = [] := by
  rw [edit?]
  split
  · rfl
  · exact deletedPlaces_cons_of_ne h

theorem deletedPlaces_edit?_delete {i j : Nat} : deletedPlaces (edit? .delete i j n) <+ [j] := by
  rw [edit?]
  split
  · exact List.nil_sublist _
  · exact List.Sublist.refl _

theorem deletedPlaces_append_left {zs : List Edit} (h : deletedPlaces ys <+ deletedPlaces zs) :
    deletedPlaces (xs ++ ys) <+ deletedPlaces (xs ++ zs) := by
  rw [deletedPlaces_append, deletedPlaces_append]
  exact (List.Sublist.refl _).append h

theorem deletedPlaces_append_congr {zs : List Edit} (h : deletedPlaces ys = deletedPlaces zs) :
    deletedPlaces (xs ++ ys) <+ deletedPlaces (xs ++ zs) :=
  deletedPlaces_append_left (h ▸ List.Sublist.refl _)

theorem deletedPlaces_consNonempty (h : e.kind = .equal) :
    deletedPlaces (consNonempty e script) = deletedPlaces script := by
  rw [consNonempty]
  split
  · rfl
  · exact deletedPlaces_cons_of_equal h

theorem deletedPlaces_lengthenAfter {prev : Edit} :
    deletedPlaces (lengthenAfter prev e n script) = deletedPlaces script := by
  cases script with
  | nil => exact deletedPlaces_cons_of_equal rfl
  | cons next rest =>
    rw [lengthenAfter]
    split
    next hnext =>
      have hgrown : (next.growLeft n).kind = .equal := hnext
      rw [deletedPlaces_cons_of_equal hgrown, deletedPlaces_cons_of_equal hnext]
    next => exact deletedPlaces_cons_of_equal rfl

theorem deletedPlaces_lengthenBefore {next : Edit} :
    deletedPlaces (lengthenBefore e next n script).reverse = deletedPlaces script.reverse := by
  cases script with
  | nil => exact deletedPlaces_cons_of_equal rfl
  | cons prev rest =>
    rw [lengthenBefore]
    split
    next hprev =>
      have hgrown : (prev.growRight n).kind = .equal := hprev
      rw [List.reverse_cons, List.reverse_cons, deletedPlaces_append, deletedPlaces_append,
        deletedPlaces_cons_of_equal hgrown, deletedPlaces_cons_of_equal hprev]
    next =>
      have hequal : deletedPlaces [⟨.equal, next.old, e.new, n⟩] = [] :=
        deletedPlaces_cons_of_equal rfl
      rw [List.reverse_cons, deletedPlaces_append, hequal, List.append_nil]

end

/-! ## What a step keeps -/

section

variable [BEq α]

omit [BEq α] in
theorem deletedPlaces_merge {a b : Edit} {xs : List Edit} :
    deletedPlaces (a.growRight b.length :: xs) <+ deletedPlaces (a :: b :: xs) := by
  rw [deletedPlaces_cons, deletedPlaces_cons, deletedPlaces_cons]
  exact (List.Sublist.refl _).append (List.sublist_append_right _ _)

theorem deletedPlaces_swap {a b : Edit} {xs : List Edit} (ha : a.kind ≠ .equal)
    (hb : b.kind ≠ .equal) (hne : a.kind ≠ b.kind) :
    deletedPlaces (b :: a :: xs) = deletedPlaces (a :: b :: xs) := by
  rcases delete_insert_or_insert_delete ha hb hne with ⟨-, hinsert⟩ | ⟨hinsert, -⟩
  · have hnil := Edit.deletedPlace_of_ne (e := b) (hinsert ▸ nofun)
    simp only [deletedPlaces_cons, hnil, List.nil_append]
  · have hnil := Edit.deletedPlace_of_ne (e := a) (hinsert ▸ nofun)
    simp only [deletedPlaces_cons, hnil, List.nil_append]

/-- **Every step keeps the deletions in order**: it drops a place at most. -/
theorem deletedPlaces_step {f f' : Focus} (hstep : Focus.Step old new f f') :
    deletedPlaces f'.script <+ deletedPlaces f.script := by
  cases hstep with
  | @slideUp prev edit before after n hprev hn hpos =>
    have hinsert : edit.kind = .insert := insert_of_slackUp_pos (hn ▸ hpos)
    rw [Focus.script_cons, Focus.script, consNonempty_reverse_append]
    refine deletedPlaces_append_congr ?_
    rw [deletedPlaces_consNonempty (e := prev.dropRight n) hprev,
      deletedPlaces_cons_of_insert (e := edit.shiftLeft n) hinsert, deletedPlaces_lengthenAfter,
      deletedPlaces_cons_of_equal hprev, deletedPlaces_cons_of_insert hinsert]
  | dropUp hprev hempty =>
    rw [Focus.script_cons]
    refine deletedPlaces_append_congr ?_
    exact (deletedPlaces_cons_of_equal hprev).symm
  | mergeUp hprev hkind =>
    rw [Focus.script_cons]
    exact deletedPlaces_append_left deletedPlaces_merge
  | swapUp hprev hchange hkind =>
    rw [Focus.script_cons]
    exact deletedPlaces_append_congr (deletedPlaces_swap hprev hchange hkind)
  | @slideDown edit next before after n hnext hn hpos =>
    have hinsert : edit.kind = .insert := insert_of_slackDown_pos (hn ▸ hpos)
    rw [Focus.script, Focus.script, deletedPlaces_append, deletedPlaces_lengthenBefore,
      ← deletedPlaces_append]
    refine deletedPlaces_append_congr ?_
    rw [deletedPlaces_cons_of_insert (e := edit.shiftRight n) hinsert,
      deletedPlaces_consNonempty (e := next.dropLeft n) hnext, deletedPlaces_cons_of_insert hinsert,
      deletedPlaces_cons_of_equal hnext]
  | dropDown hnext hempty =>
    refine deletedPlaces_append_congr ?_
    rw [deletedPlaces_cons, deletedPlaces_cons]
    exact congrArg _ (deletedPlaces_cons_of_equal hnext).symm
  | mergeDown hnext hkind => exact deletedPlaces_append_left deletedPlaces_merge
  | swapDown hchange hnext hkind =>
    rw [Focus.script_cons]
    exact deletedPlaces_append_congr (deletedPlaces_swap hchange hnext hkind.symm)

/-- The deletions that the search finds name the places where they stand. -/
theorem deletedPlaces_rawScript [LawfulBEq α] (old new : Array α) :
    (deletedPlaces (rawScript old new)).Pairwise (· ≤ ·) := by
  have hraw := rawScript_induction old new
    (motive := fun _ j script _ j' ↦ j ≤ j' ∧ (deletedPlaces script).Pairwise (· ≤ ·) ∧
      ∀ x ∈ deletedPlaces script, j ≤ x ∧ x ≤ j') ?_ ?_ ?_
  · exact hraw.2.1
  · rintro i j xs a b ys i' j' ⟨hjb, hxs, hboundXs⟩ ⟨hbj', hys, hboundYs⟩
    rw [deletedPlaces_append]
    refine ⟨Nat.le_trans hjb hbj', List.pairwise_append.mpr ⟨hxs, hys, fun x hx y hy ↦ ?_⟩,
      fun x hx ↦ ?_⟩
    · exact Nat.le_trans (hboundXs x hx).2 (hboundYs y hy).1
    · rcases List.mem_append.mp hx with hx | hx
      · exact ⟨(hboundXs x hx).1, Nat.le_trans (hboundXs x hx).2 hbj'⟩
      · exact ⟨Nat.le_trans hjb (hboundYs x hx).1, (hboundYs x hx).2⟩
  · intro i j m _
    rw [deletedPlaces_edit?_of_ne .equal nofun]
    exact ⟨Nat.le_add_right _ _, List.Pairwise.nil, nofun⟩
  · intro i j m m' _ _
    have hplaces : deletedPlaces (edit? .delete i j m ++ edit? .insert i j m') <+ [j] := by
      rw [deletedPlaces_append, deletedPlaces_edit?_of_ne .insert nofun, List.append_nil]
      exact deletedPlaces_edit?_delete
    refine ⟨Nat.le_add_right _ _, (List.pairwise_singleton _ j).sublist hplaces, fun x hx ↦ ?_⟩
    obtain rfl := List.mem_singleton.mp (hplaces.subset hx)
    exact ⟨Nat.le_refl _, Nat.le_add_right _ _⟩

theorem deletedPlaces_settle [LawfulBEq α] (old new : Array α) :
    (deletedPlaces (settle old new (rawScript old new))).Pairwise (· ≤ ·) :=
  settle_induction (motive := fun script ↦ (deletedPlaces script).Pairwise (· ≤ ·))
    (fun _ _ hstep hscript ↦ hscript.sublist (deletedPlaces_step hstep))
    (deletedPlaces_rawScript old new)

end

/-! ## Mere deletions among blocks -/

def Block.deletedPlace (b : Block) : List Nat := if b.IsDeletion then [b.new] else []

section

variable {b : Block} {bs group rest : List Block} {p : Pending} {script : List Edit}

theorem Block.deletedPlace_of_isEqual (h : b.isEqual = true) : b.deletedPlace = [] :=
  if_neg fun ⟨hfalse, _⟩ ↦ absurd (h.symm.trans hfalse) nofun

namespace Pending

def deletedPlace (p : Pending) : List Nat := (p.delete.map Edit.new).toList

theorem deletedPlace_equalBlocks : p.equalBlocks.flatMap Block.deletedPlace = [] := by
  obtain ⟨equal, delete, insert⟩ := p
  cases equal with
  | none => rfl
  | some e => exact (List.append_nil _).trans (Block.deletedPlace_of_isEqual rfl)

theorem deletedPlace_changeBlocks (hinsert : ∀ e ∈ p.insert, 0 < e.length) :
    p.changeBlocks.flatMap Block.deletedPlace <+ p.deletedPlace := by
  obtain ⟨equal, delete, insert⟩ := p
  have hreplace : ∀ {isEqual : Bool} {a k c : Nat} {e : Edit}, 0 < e.length →
      [(⟨isEqual, a, k, c, e.length⟩ : Block)].flatMap Block.deletedPlace = [] := by
    intro isEqual a k c e hpos
    exact (List.append_nil _).trans (if_neg fun ⟨_, hzero⟩ ↦ absurd hzero (Nat.ne_of_gt hpos))
  cases insert with
  | some e =>
    have hpos : 0 < e.length := hinsert e rfl
    cases delete with
    | none => exact (hreplace hpos).symm ▸ List.nil_sublist _
    | some d => exact (hreplace hpos).symm ▸ List.nil_sublist _
  | none =>
    cases delete with
    | none => exact List.Sublist.refl _
    | some d => exact List.Sublist.refl _

end Pending

theorem deletedPlace_blocksFrom (hinsert : ∀ e ∈ p.insert, 0 < e.length)
    (hscript : ∀ e ∈ script, 0 < e.length) :
    (blocksFrom p script).flatMap Block.deletedPlace <+
      p.deletedPlace ++ deletedPlaces script := by
  induction script generalizing p with
  | nil =>
    rw [blocksFrom, List.flatMap_append, Pending.deletedPlace_equalBlocks, List.nil_append]
    exact (Pending.deletedPlace_changeBlocks hinsert).trans (List.sublist_append_left _ _)
  | cons e script ih =>
    obtain ⟨hpos, hscript⟩ := List.forall_mem_cons.mp hscript
    cases he : e.kind with
    | equal =>
      rw [blocksFrom, he, List.flatMap_append, deletedPlaces_cons_of_equal he]
      have hnone : ∀ e ∈ (none : Option Edit), 0 < e.length :=
        fun _ hmem ↦ absurd hmem (Option.not_mem_none _)
      exact (Pending.deletedPlace_changeBlocks hinsert).append (ih hnone hscript)
    | delete =>
      rw [blocksFrom, he, List.flatMap_append, Pending.deletedPlace_equalBlocks, List.nil_append,
        deletedPlaces_cons, Edit.deletedPlace, if_pos he, ← List.append_assoc]
      refine (ih (p := ⟨none, Pending.extend p.delete e, p.insert⟩) hinsert hscript).trans
        (List.Sublist.append ?_ (List.Sublist.refl _))
      -- A pending deletion that goes on keeps its place.
      cases hdelete : p.delete with
      | none => exact List.sublist_append_right _ _
      | some d =>
        rw [Pending.deletedPlace, Pending.deletedPlace, hdelete]
        exact List.sublist_append_left _ _
    | insert =>
      rw [blocksFrom, he, List.flatMap_append, Pending.deletedPlace_equalBlocks, List.nil_append,
        deletedPlaces_cons_of_insert he]
      exact ih (p := ⟨none, p.delete, Pending.extend p.insert e⟩)
        (Pending.extend_pos hinsert hpos) hscript

/-! ## Mere deletions in groups -/

theorem Block.deletedPlace_keepFirst : (b.keepFirst radius).deletedPlace = b.deletedPlace := by
  rw [keepFirst]
  split
  next hb => rw [deletedPlace_of_isEqual rfl, deletedPlace_of_isEqual hb]
  next => rfl

theorem Block.deletedPlace_keepLast : (b.keepLast radius).deletedPlace = b.deletedPlace := by
  rw [keepLast]
  split
  next hb => rw [deletedPlace_of_isEqual rfl, deletedPlace_of_isEqual hb]
  next => rfl

theorem deletedPlace_modifyFirst : (modifyFirst (Block.keepLast radius) bs).flatMap
    Block.deletedPlace = bs.flatMap Block.deletedPlace := by
  cases bs with
  | nil => rfl
  | cons b bs =>
    rw [modifyFirst, List.flatMap_cons, List.flatMap_cons, Block.deletedPlace_keepLast]

theorem deletedPlace_modifyLast : (modifyLast (Block.keepFirst radius) bs).flatMap
    Block.deletedPlace = bs.flatMap Block.deletedPlace := by
  induction bs using modifyLast.induct with
  | case1 => rfl
  | case2 b =>
    rw [modifyLast, List.flatMap_singleton, List.flatMap_singleton, Block.deletedPlace_keepFirst]
  | case3 b c rest ih =>
    rw [modifyLast, List.flatMap_cons, List.flatMap_cons (x := b), ih]

theorem deletedPlace_of_mem_groupsFrom {g : List Block} (hg : g ∈ groupsFrom radius group rest) :
    g.flatMap Block.deletedPlace <+ (group.reverse ++ rest).flatMap Block.deletedPlace := by
  induction rest generalizing group with
  | nil =>
    rw [groupsFrom] at hg
    split at hg
    · exact absurd hg List.not_mem_nil
    · rw [List.mem_singleton.mp hg, List.flatMap_append]
      exact List.sublist_append_left _ _
  | cons b rest ih =>
    rw [groupsFrom] at hg
    split at hg
    next hcut =>
      have hb := Block.deletedPlace_of_isEqual hcut.1
      rw [List.flatMap_append, List.flatMap_cons, hb, List.nil_append]
      rcases List.mem_cons.mp hg with rfl | hg
      · rw [List.reverse_cons, List.flatMap_append, List.flatMap_singleton,
          Block.deletedPlace_keepFirst, hb, List.append_nil]
        exact List.sublist_append_left _ _
      · have hrest := ih hg
        rw [List.reverse_singleton, List.singleton_append, List.flatMap_cons,
          Block.deletedPlace_keepLast, hb, List.nil_append] at hrest
        exact hrest.trans (List.sublist_append_right _ _)
    next =>
      have hrest := ih hg
      rwa [List.reverse_cons, List.append_assoc, List.singleton_append] at hrest

/-- **The mere deletions of a group name places in order.** -/
theorem sorted_of_mem_groupsBetween [BEq α] [LawfulBEq α] {g : List Block}
    (hg : g ∈ groupsBetween radius old new) :
    (g.flatMap Block.deletedPlace).Pairwise (· ≤ ·) := by
  have hcovers := (settle_rawScript_anchored old new).covers
  have hsettled := deletedPlaces_settle old new
  have hblocks := deletedPlace_blocksFrom (p := {}) nofun fun e he ↦ hcovers.length_pos_of_mem he
  have hgroup := deletedPlace_of_mem_groupsFrom hg
  rw [List.reverse_nil, List.nil_append, deletedPlace_modifyLast, deletedPlace_modifyFirst]
    at hgroup
  exact hsettled.sublist (hgroup.trans hblocks)

theorem new_le_of_sorted {first last : Block}
    (hsorted : (group.flatMap Block.deletedPlace).Pairwise (· ≤ ·))
    (hhead : group.head? = some first) (hlast : group.getLast? = some last)
    (hfirst : first.IsDeletion) (hlast' : last.IsDeletion) :
    first.new ≤ last.new := by
  obtain ⟨rest, rfl⟩ := List.head?_eq_some_iff.mp hhead
  rcases List.eq_nil_or_concat rest with rfl | ⟨front, x, rfl⟩
  · obtain rfl := Option.some.inj hlast
    exact Nat.le_refl _
  · rw [List.concat_eq_append, ← List.cons_append, List.getLast?_concat] at hlast
    obtain rfl := Option.some.inj hlast
    rw [List.concat_eq_append, List.flatMap_cons, List.flatMap_append, List.flatMap_singleton,
      Block.deletedPlace, if_pos hfirst, Block.deletedPlace, if_pos hlast'] at hsorted
    have hmem : x.new ∈ front.flatMap Block.deletedPlace ++ [x.new] :=
      List.mem_append_right _ (List.mem_singleton_self _)
    exact List.rel_of_pairwise_cons hsorted hmem

end

end Redline.Diff
