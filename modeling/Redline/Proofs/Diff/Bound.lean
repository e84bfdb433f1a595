import Redline.Proofs.Diff.Group
import Redline.Proofs.Diff.Step

/-!
# How stale a place can be

An insertion that has changed places with a deletion may name an old place where it no longer
stands, and a deletion that has changed places with an insertion may name such a new place. How far
off the place can be is bounded from both sides: it is no earlier than the number of equal lines
before the change, and later by no more than the number of all deleted, or all inserted, lines. A
swap leaves these numbers as they are, and a slide over equal lines moves the named place by as many
lines as come to stand before the insertion.

The equal and the deleted lines together are the lines of the old sequence, so an old place that is
named lies within it. Blocks and groups take over the places that edits name.
-/

namespace Redline.Diff

variable {α : Type} {old new : Array α} {i j i' j' n : Nat}

/-! ## Counting equal and deleted lines -/

namespace Edit

def kept (e : Edit) : Nat := if e.kind = .equal then e.length else 0

def deleted (e : Edit) : Nat := if e.kind = .delete then e.length else 0

/-- The equal and the deleted lines of an edit. -/
def share (e : Edit) : Nat × Nat := (e.kept, e.deleted)

/-- The place that a change behind so many equal lines names in the sequence where it has no run: it
is no earlier than these lines and later by no more than a bound. -/
def NamesWithin (deletes inserts : Nat) (kept _deleted : Nat) (e : Edit) : Prop :=
  match e.kind with
  | .equal => True
  | .delete => kept ≤ e.new ∧ e.new ≤ kept + inserts
  | .insert => kept ≤ e.old ∧ e.old ≤ kept + deletes

variable {e : Edit} {deletes inserts k d : Nat}

theorem share_equal (h : e.kind = .equal) : e.share = (e.length, 0) := by
  simp [share, kept, deleted, h]

theorem share_delete (h : e.kind = .delete) : e.share = (0, e.length) := by
  simp [share, kept, deleted, h]

theorem share_insert (h : e.kind = .insert) : e.share = (0, 0) := by
  simp [share, kept, deleted, h]

theorem namesWithin_equal (h : e.kind = .equal) : e.NamesWithin deletes inserts k d := by
  rw [NamesWithin, h]
  trivial

theorem namesWithin_delete (h : e.kind = .delete) : e.NamesWithin deletes inserts k d ↔
    k ≤ e.new ∧ e.new ≤ k + inserts := by
  rw [NamesWithin, h]

theorem namesWithin_insert (h : e.kind = .insert) : e.NamesWithin deletes inserts k d ↔
    k ≤ e.old ∧ e.old ≤ k + deletes := by
  rw [NamesWithin, h]

end Edit

/-- A script that leads from some numbers of equal and deleted lines to others, and whose changes
name places within the bounds. -/
def NamesWithin (deletes inserts : Nat) : Nat → Nat → List Edit → Nat → Nat → Prop :=
  Chain Edit.share (Edit.NamesWithin deletes inserts)

section

variable {deletes inserts k d k' d' : Nat} {script : List Edit}

theorem namesWithin_edit?_equal (k d n : Nat) {i j : Nat} :
    NamesWithin deletes inserts k d (edit? .equal i j n) (k + n) d := by
  rw [edit?]
  split
  next hn =>
    subst hn
    exact ⟨rfl, rfl⟩
  next => exact chain_singleton (Edit.namesWithin_equal rfl)

theorem namesWithin_edit?_delete (h : k ≤ j) (h' : j ≤ k + inserts) :
    NamesWithin deletes inserts k d (edit? .delete i j n) k (d + n) := by
  rw [edit?]
  split
  next hn =>
    subst hn
    exact ⟨rfl, rfl⟩
  next => exact chain_singleton ((Edit.namesWithin_delete rfl).mpr ⟨h, h'⟩)

theorem namesWithin_edit?_insert (h : k ≤ i) (h' : i ≤ k + deletes) :
    NamesWithin deletes inserts k d (edit? .insert i j n) k d := by
  rw [edit?]
  split
  next => exact ⟨rfl, rfl⟩
  next => exact chain_singleton ((Edit.namesWithin_insert rfl).mpr ⟨h, h'⟩)

/-- The old lines that a script takes up are its equal and its deleted ones, the new lines are its
equal and its inserted ones. The search places every change behind the equal lines before it, and no
further than there are lines deleted or inserted. -/
theorem namesWithin_rawScript [BEq α] [LawfulBEq α] (old new : Array α) :
    ∃ k d n, old.size = k + d ∧ new.size = k + n ∧ NamesWithin d n 0 0 (rawScript old new) k d := by
  have hraw := rawScript_induction old new
    (motive := fun i j script i' j' ↦ ∀ k d n, i = k + d → j = k + n →
      ∃ k' d' n', i' = k' + d' ∧ j' = k' + n' ∧ d ≤ d' ∧ n ≤ n' ∧
        ∀ deletes inserts, d' ≤ deletes → n' ≤ inserts →
          NamesWithin deletes inserts k d script k' d') ?_ ?_ ?_
  · obtain ⟨k, d, n, hold, hnew, -, -, hnames⟩ := hraw 0 0 0 rfl rfl
    exact ⟨k, d, n, hold, hnew, hnames d n (Nat.le_refl d) (Nat.le_refl n)⟩
  · intro i j xs a b ys i' j' hxs hys k d n hi hj
    obtain ⟨k', d', n', ha, hb, hd, hn, hnames⟩ := hxs k d n hi hj
    obtain ⟨k'', d'', n'', hi', hj', hd', hn', hnames'⟩ := hys k' d' n' ha hb
    refine ⟨k'', d'', n'', hi', hj', Nat.le_trans hd hd', Nat.le_trans hn hn',
      fun deletes inserts hD hN ↦ ?_⟩
    exact (hnames deletes inserts (Nat.le_trans hd' hD) (Nat.le_trans hn' hN)).append
      (hnames' deletes inserts hD hN)
  · intro i j m _ k d n hi hj
    refine ⟨k + m, d, n, by omega, by omega, Nat.le_refl d, Nat.le_refl n, fun _ _ _ _ ↦ ?_⟩
    exact namesWithin_edit?_equal k d m
  · intro i j m m' _ _ k d n hi hj
    refine ⟨k, d + m, n + m', by omega, by omega, Nat.le_add_right _ _, Nat.le_add_right _ _,
      fun deletes inserts hD hN ↦ ?_⟩
    exact (namesWithin_edit?_delete (by omega) (by omega)).append
      (namesWithin_edit?_insert (by omega) (by omega))

theorem NamesWithin.old_le (h : NamesWithin deletes inserts k d script k' d') :
    k ≤ k' ∧ ∀ e ∈ script, e.kind = .insert → e.old ≤ k' + deletes := by
  induction script generalizing k d with
  | nil =>
    obtain ⟨rfl, rfl⟩ := h
    exact ⟨Nat.le_refl _, fun e he ↦ absurd he List.not_mem_nil⟩
  | cons x script ih =>
    obtain ⟨hfits, hrest⟩ := h
    obtain ⟨hle, hnames⟩ := ih hrest
    have hle' : k ≤ k' := Nat.le_of_add_right_le hle
    refine ⟨hle', fun e he hinsert ↦ ?_⟩
    rcases List.mem_cons.mp he with rfl | he
    · have hold := ((Edit.namesWithin_insert hinsert).mp hfits).2
      exact Nat.le_trans hold (Nat.add_le_add_right hle' _)
    · exact hnames e he hinsert

/-! ## What a step keeps -/

/-- Only the number of equal lines before a change counts, so changes may change places. -/
theorem NamesWithin.swap {a b : Edit} (ha : a.kind ≠ .equal) (hb : b.kind ≠ .equal)
    (h : NamesWithin deletes inserts k d (a :: b :: script) k' d') :
    NamesWithin deletes inserts k d (b :: a :: script) k' d' := by
  have ha' : a.share.1 = 0 := if_neg ha
  have hb' : b.share.1 = 0 := if_neg hb
  obtain ⟨hfits, hfits', hrest⟩ := h
  rw [ha', hb'] at hrest
  rw [ha'] at hfits'
  refine ⟨hfits', ?_, ?_⟩
  · rw [hb']
    exact hfits
  · rw [ha', hb', Nat.add_right_comm d]
    exact hrest

theorem NamesWithin.merge {a b : Edit} (ha : a.kind ≠ .equal) (hkind : a.kind = b.kind)
    (h : NamesWithin deletes inserts k d (a :: b :: script) k' d') :
    NamesWithin deletes inserts k d (a.growRight b.length :: script) k' d' := by
  obtain ⟨hfits, -, hrest⟩ := h
  refine ⟨hfits, ?_⟩
  have hgrown : (a.growRight b.length).kind = a.kind := rfl
  cases hk : a.kind with
  | equal => exact absurd hk ha
  | delete =>
    rw [hk] at hkind hgrown
    rw [Edit.share_delete hk, Edit.share_delete hkind.symm] at hrest
    rw [Edit.share_delete hgrown]
    simpa only [Edit.growRight, Nat.add_zero, Nat.add_assoc] using hrest
  | insert =>
    rw [hk] at hkind hgrown
    rw [Edit.share_insert hk, Edit.share_insert hkind.symm] at hrest
    rw [Edit.share_insert hgrown]
    exact hrest

theorem namesWithin_cons_equal {e : Edit} (he : e.kind = .equal) :
    NamesWithin deletes inserts k d (e :: script) k' d' ↔
      NamesWithin deletes inserts (k + e.length) d script k' d' := by
  rw [NamesWithin, chain_cons, Edit.share_equal he]
  exact and_iff_right (Edit.namesWithin_equal he)

theorem namesWithin_cons_empty {e : Edit} (he : e.kind = .equal) (hempty : e.isEmpty = true) :
    NamesWithin deletes inserts k d (e :: script) k' d' ↔
      NamesWithin deletes inserts k d script k' d' := by
  have hzero : e.length = 0 := beq_iff_eq.mp hempty
  rw [namesWithin_cons_equal he, hzero, Nat.add_zero]

theorem namesWithin_consNonempty {e : Edit} (he : e.kind = .equal) :
    NamesWithin deletes inserts k d (consNonempty e script) k' d' ↔
      NamesWithin deletes inserts (k + e.length) d script k' d' := by
  rw [consNonempty, ← namesWithin_cons_equal he]
  split
  next hempty => exact (namesWithin_cons_empty he hempty).symm
  next => exact Iff.rfl

theorem namesWithin_lengthenAfter {prev e : Edit} {after : List Edit} :
    NamesWithin deletes inserts k d (lengthenAfter prev e n after) k' d' ↔
      NamesWithin deletes inserts (k + n) d after k' d' := by
  cases after with
  | nil => exact namesWithin_cons_equal rfl
  | cons next rest =>
    rw [lengthenAfter]
    split
    next hnext =>
      have hgrown : (next.growLeft n).kind = .equal := hnext
      rw [namesWithin_cons_equal hnext, namesWithin_cons_equal hgrown, Nat.add_assoc,
        Nat.add_comm n]
      rfl
    next => exact namesWithin_cons_equal rfl

theorem NamesWithin.lengthenBefore {e next : Edit} {before tail : List Edit}
    (h : NamesWithin deletes inserts k d
      (before.reverse ++ ⟨.equal, next.old, e.new, n⟩ :: tail) k' d') :
    NamesWithin deletes inserts k d
      ((Diff.lengthenBefore e next n before).reverse ++ tail) k' d' := by
  cases before with
  | nil => exact h
  | cons prev rest =>
    rw [Diff.lengthenBefore]
    split
    next hprev =>
      have hgrown : (prev.growRight n).kind = .equal := hprev
      rw [List.reverse_cons, List.append_assoc, List.singleton_append] at h ⊢
      refine Chain.replace_tail h fun a b htail ↦ ?_
      have hrest := (namesWithin_cons_equal rfl).mp ((namesWithin_cons_equal hprev).mp htail)
      refine (namesWithin_cons_equal hgrown).mpr ?_
      rwa [Nat.add_assoc] at hrest
    next =>
      rwa [List.reverse_cons, List.append_assoc, List.singleton_append]

variable [BEq α]

theorem NamesWithin.slideUp {prev e : Edit} {after : List Edit} (hprev : prev.kind = .equal)
    (he : e.kind = .insert) (hn : n ≤ prev.length)
    (h : NamesWithin deletes inserts k d (prev :: e :: after) k' d') :
    NamesWithin deletes inserts k d
      (consNonempty (prev.dropRight n) (e.shiftLeft n :: lengthenAfter prev e n after)) k' d' := by
  have hdrop : (prev.dropRight n).kind = .equal := hprev
  have hshift : (e.shiftLeft n).kind = .insert := he
  obtain ⟨hfits, hrest⟩ := (namesWithin_cons_equal hprev).mp h
  refine (namesWithin_consNonempty hdrop).mpr ⟨(Edit.namesWithin_insert hshift).mpr ?_, ?_⟩
  · have hold := (Edit.namesWithin_insert he).mp hfits
    simp only [Edit.shiftLeft, Edit.dropRight]
    omega
  · rw [Edit.share_insert he] at hrest
    rw [Edit.share_insert hshift]
    refine namesWithin_lengthenAfter.mpr ?_
    simp only [Edit.dropRight, Nat.add_zero] at hrest ⊢
    rwa [Nat.add_assoc, Nat.sub_add_cancel hn]

theorem NamesWithin.slideDown {e next : Edit} {before rest : List Edit}
    (hnext : next.kind = .equal) (he : e.kind = .insert) (hn : n ≤ next.length)
    (h : NamesWithin deletes inserts k d (before.reverse ++ e :: next :: rest) k' d') :
    NamesWithin deletes inserts k d ((Diff.lengthenBefore e next n before).reverse ++
      e.shiftRight n :: consNonempty (next.dropLeft n) rest) k' d' := by
  have hdrop : (next.dropLeft n).kind = .equal := hnext
  have hshift : (e.shiftRight n).kind = .insert := he
  refine NamesWithin.lengthenBefore (Chain.replace_tail h fun a b htail ↦ ?_)
  obtain ⟨hfits, hrest⟩ := htail
  refine (namesWithin_cons_equal rfl).mpr ⟨(Edit.namesWithin_insert hshift).mpr ?_, ?_⟩
  · have hold := (Edit.namesWithin_insert he).mp hfits
    simp only [Edit.shiftRight]
    omega
  · rw [Edit.share_insert he] at hrest
    rw [Edit.share_insert hshift]
    have hrest' := (namesWithin_cons_equal hnext).mp hrest
    refine (namesWithin_consNonempty hdrop).mpr ?_
    simp only [Edit.dropLeft, Nat.add_zero] at hrest' ⊢
    rwa [Nat.add_assoc, Nat.add_sub_cancel' hn]

/-- **Every step keeps the places that changes name within the bounds.** -/
theorem NamesWithin.step {f f' : Focus} (hstep : Focus.Step old new f f')
    (h : NamesWithin deletes inserts k d f.script k' d') :
    NamesWithin deletes inserts k d f'.script k' d' := by
  cases hstep with
  | slideUp hprev hn hpos =>
    rw [Focus.script_cons] at h
    rw [Focus.script, consNonempty_reverse_append]
    exact Chain.replace_tail h fun a b ↦
      NamesWithin.slideUp hprev (insert_of_slackUp_pos (hn ▸ hpos)) (hn ▸ slackUp_le ..)
  | dropUp hprev hempty =>
    rw [Focus.script_cons] at h
    exact Chain.replace_tail h fun a b ↦ (namesWithin_cons_empty hprev hempty).mp
  | mergeUp hprev hkind =>
    rw [Focus.script_cons] at h
    exact Chain.replace_tail h fun a b ↦ NamesWithin.merge hprev hkind
  | swapUp hprev hchange _ =>
    rw [Focus.script_cons] at h
    exact Chain.replace_tail h fun a b ↦ NamesWithin.swap hprev hchange
  | slideDown hnext hn hpos =>
    exact h.slideDown hnext (insert_of_slackDown_pos (hn ▸ hpos)) (hn ▸ slackDown_le ..)
  | dropDown hnext hempty =>
    refine Chain.replace_tail h fun a b htail ↦ ⟨htail.1, ?_⟩
    exact (namesWithin_cons_empty hnext hempty).mp htail.2
  | mergeDown hnext hkind =>
    exact Chain.replace_tail h fun a b ↦ NamesWithin.merge (hkind ▸ hnext) hkind.symm
  | swapDown hchange hnext _ =>
    rw [Focus.script_cons]
    exact Chain.replace_tail h fun a b ↦ NamesWithin.swap hchange hnext

theorem namesWithin_settle [LawfulBEq α] (old new : Array α) :
    ∃ k d n, old.size = k + d ∧ new.size = k + n ∧
      NamesWithin d n 0 0 (settle old new (rawScript old new)) k d := by
  obtain ⟨k, d, n, hold, hnew, hnames⟩ := namesWithin_rawScript old new
  exact ⟨k, d, n, hold, hnew, settle_induction
    (motive := fun script ↦ NamesWithin d n 0 0 script k d)
    (fun f f' hstep ↦ NamesWithin.step hstep) hnames⟩

/-- **No edit of a settled script names a place beyond the old sequence.** -/
theorem old_le_of_mem_settle [LawfulBEq α] {e : Edit}
    (he : e ∈ settle old new (rawScript old new)) : e.old ≤ old.size := by
  obtain ⟨a, b, hfits⟩ :=
    Chain.exists_fits_of_mem (settle_rawScript_anchored old new).covers he
  cases hk : e.kind with
  | equal =>
    obtain ⟨-, rfl, -, hrun⟩ := (Edit.fits_equal hk).mp hfits
    exact Nat.le_of_add_right_le hrun.old_le
  | delete =>
    obtain ⟨-, rfl, hle, -⟩ := (Edit.fits_delete hk).mp hfits
    exact Nat.le_of_add_right_le hle
  | insert =>
    obtain ⟨k, d, n, hold, -, hnames⟩ := namesWithin_settle old new
    exact hold ▸ hnames.old_le.2 e he hk

end

/-! ## Blocks and groups -/

namespace Pending

/-- No pending edit names an old place beyond the bound. -/
structure Within (bound : Nat) (p : Pending) : Prop where
  equal : ∀ e ∈ p.equal, e.old ≤ bound
  delete : ∀ e ∈ p.delete, e.old ≤ bound
  insert : ∀ e ∈ p.insert, e.old ≤ bound

variable {bound : Nat} {p : Pending} {b : Block} {e : Edit} {run : Option Edit}

theorem none_within : ∀ r ∈ (none : Option Edit), r.old ≤ bound := nofun

theorem extend_within (h : ∀ r ∈ run, r.old ≤ bound) (he : e.old ≤ bound) :
    ∀ r ∈ extend run e, r.old ≤ bound := by
  intro r hr
  cases run with
  | none =>
    obtain rfl := Option.mem_some.mp hr
    exact he
  | some first =>
    obtain rfl := Option.mem_some.mp hr
    exact h first rfl

theorem Within.equalBlocks (h : p.Within bound) (hb : b ∈ p.equalBlocks) : b.old ≤ bound := by
  rw [Pending.equalBlocks] at hb
  split at hb
  next e he =>
    rw [List.mem_singleton.mp hb]
    exact h.equal e he
  next => exact absurd hb List.not_mem_nil

/-- A change takes its old place from the deletion, if there is one. -/
theorem Within.changeBlocks (h : p.Within bound) (hb : b ∈ p.changeBlocks) : b.old ≤ bound := by
  rw [Pending.changeBlocks] at hb
  split at hb
  next d i hd hi =>
    rw [List.mem_singleton.mp hb]
    exact h.delete d hd
  next d hd hi =>
    rw [List.mem_singleton.mp hb]
    exact h.delete d hd
  next i hd hi =>
    rw [List.mem_singleton.mp hb]
    exact h.insert i hi
  next => exact absurd hb List.not_mem_nil

end Pending

section

variable {bound radius : Nat} {b x : Block} {bs group : List Block}

theorem old_le_of_mem_blocksFrom {script : List Edit} {p : Pending} (hp : p.Within bound)
    (hscript : ∀ e ∈ script, e.old ≤ bound) (hb : b ∈ blocksFrom p script) : b.old ≤ bound := by
  induction script generalizing p with
  | nil =>
    rcases List.mem_append.mp hb with hb | hb
    · exact hp.equalBlocks hb
    · exact hp.changeBlocks hb
  | cons e script ih =>
    obtain ⟨he, hrest⟩ := List.forall_mem_cons.mp hscript
    cases hk : e.kind with
    | equal =>
      rw [blocksFrom, hk] at hb
      rcases List.mem_append.mp hb with hb | hb
      · exact hp.changeBlocks hb
      · refine ih ?_ hrest hb
        exact ⟨Pending.extend_within hp.equal he, Pending.none_within, Pending.none_within⟩
    | delete =>
      rw [blocksFrom, hk] at hb
      rcases List.mem_append.mp hb with hb | hb
      · exact hp.equalBlocks hb
      · refine ih ?_ hrest hb
        exact ⟨Pending.none_within, Pending.extend_within hp.delete he, hp.insert⟩
    | insert =>
      rw [blocksFrom, hk] at hb
      rcases List.mem_append.mp hb with hb | hb
      · exact hp.equalBlocks hb
      · refine ih ?_ hrest hb
        exact ⟨Pending.none_within, hp.delete, Pending.extend_within hp.insert he⟩

theorem Block.eq_of_keepFirst (h : (x.keepFirst radius).isEqual = false) :
    x.keepFirst radius = x := by
  rw [keepFirst] at h ⊢
  split at h
  next => exact absurd h.symm Bool.false_ne_true
  next hx => rw [if_neg hx]

theorem Block.eq_of_keepLast (h : (x.keepLast radius).isEqual = false) :
    x.keepLast radius = x := by
  rw [keepLast] at h ⊢
  split at h
  next => exact absurd h.symm Bool.false_ne_true
  next hx => rw [if_neg hx]

theorem mem_of_mem_modifyFirst (h : b ∈ modifyFirst (Block.keepLast radius) bs)
    (hb : b.isEqual = false) : b ∈ bs := by
  cases bs with
  | nil => exact h
  | cons x bs =>
    rcases List.mem_cons.mp h with rfl | h
    · rw [Block.eq_of_keepLast hb]
      exact List.mem_cons_self
    · exact List.mem_cons_of_mem x h

theorem mem_of_mem_modifyLast (h : b ∈ modifyLast (Block.keepFirst radius) bs)
    (hb : b.isEqual = false) : b ∈ bs := by
  induction bs using modifyLast.induct with
  | case1 => exact h
  | case2 x =>
    obtain rfl := List.mem_singleton.mp h
    rw [Block.eq_of_keepFirst hb]
    exact List.mem_singleton_self x
  | case3 x y rest ih =>
    rcases List.mem_cons.mp h with rfl | h
    · exact List.mem_cons_self
    · exact List.mem_cons_of_mem x (ih h)

/-- The changes that groups show are those of the blocks; only equal blocks are cut. -/
theorem mem_of_mem_groupsFrom {g : List Block} (hg : g ∈ groupsFrom radius group bs)
    (hmem : b ∈ g) (hb : b.isEqual = false) : b ∈ group ∨ b ∈ bs := by
  induction bs generalizing group with
  | nil =>
    rw [groupsFrom] at hg
    split at hg
    · exact absurd hg List.not_mem_nil
    · rw [List.mem_singleton.mp hg, List.mem_reverse] at hmem
      exact Or.inl hmem
  | cons x rest ih =>
    rw [groupsFrom] at hg
    split at hg
    next hcut =>
      rcases List.mem_cons.mp hg with rfl | hg
      · rcases List.mem_cons.mp (List.mem_reverse.mp hmem) with rfl | hmem
        · rw [Block.eq_of_keepFirst hb]
          exact Or.inr List.mem_cons_self
        · exact Or.inl hmem
      · rcases ih hg with hlast | hmem
        · obtain rfl := List.mem_singleton.mp hlast
          rw [Block.eq_of_keepLast hb]
          exact Or.inr List.mem_cons_self
        · exact Or.inr (List.mem_cons_of_mem x hmem)
    next =>
      rcases ih hg with hmem | hmem
      · rcases List.mem_cons.mp hmem with rfl | hmem
        · exact Or.inr List.mem_cons_self
        · exact Or.inl hmem
      · exact Or.inr (List.mem_cons_of_mem x hmem)

theorem mem_of_mem_groups {g : List Block} (hg : g ∈ groups radius bs) (hmem : b ∈ g)
    (hb : b.isEqual = false) : b ∈ bs := by
  have hcut := (mem_of_mem_groupsFrom hg hmem hb).resolve_left List.not_mem_nil
  exact mem_of_mem_modifyFirst (mem_of_mem_modifyLast hcut hb) hb

/-- **No change in a group names a place beyond the old sequence.** -/
theorem old_le_of_mem_groupsBetween [BEq α] [LawfulBEq α] {g : List Block}
    (hg : g ∈ groupsBetween radius old new) (hmem : b ∈ g) (hb : b.isEqual = false) :
    b.old ≤ old.size :=
  old_le_of_mem_blocksFrom ⟨Pending.none_within, Pending.none_within, Pending.none_within⟩
    (fun _ ↦ old_le_of_mem_settle) (mem_of_mem_groups hg hmem hb)

end

end Redline.Diff
