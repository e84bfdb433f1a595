import Redline.Proofs.Diff.Alternate
import Redline.Proofs.Diff.Named

/-!
# Where groups are cut

The groups of the blocks of a settled script cover both sequences together with the equal lines that
are left out between them. What a group is, and how much is left out, comes from where equal blocks
are cut.

Equal blocks and changes alternate, and every change changes something. So a group that is not idle
has a change, and between two of its changes stands one equal block, which is short, as a long one
would have been cut. The other equal blocks stand at the border of a group. Such a block has as many
lines as there are next to the group, up to the radius: the first and the last of all blocks are cut
to it, and so is a long block between two groups, which loses at least one line.

The lines that are cut away count as equal lines, so groups name places within the bounds that hold
for the blocks.
-/

namespace Redline.Diff

variable {α : Type} {old new : Array α} {i j i' j' m n radius : Nat}

/-! ## Cutting equal blocks -/

namespace Block

variable {b : Block}

@[simp] theorem isEqual_keepFirst : (b.keepFirst radius).isEqual = b.isEqual := by
  cases hb : b.isEqual <;> simp [keepFirst, equal, hb]

@[simp] theorem isEqual_keepLast : (b.keepLast radius).isEqual = b.isEqual := by
  cases hb : b.isEqual <;> simp [keepLast, equal, hb]

@[simp] theorem keepFirst_old : (b.keepFirst radius).old = b.old := by
  rw [keepFirst]
  split <;> rfl

theorem kept_keepFirst : (b.keepFirst radius).kept = min radius b.kept := by
  cases hb : b.isEqual with
  | false => simp [keepFirst, kept, hb]
  | true => simp [keepFirst, kept, equal, hb, Nat.min_comm]

theorem kept_keepLast : (b.keepLast radius).kept = min radius b.kept := by
  cases hb : b.isEqual with
  | false => simp [keepLast, kept, hb]
  | true =>
    simp only [keepLast, kept, equal, hb, if_true]
    omega

theorem deleted_keepFirst : (b.keepFirst radius).deleted = b.deleted := by
  cases hb : b.isEqual <;> simp [keepFirst, deleted, equal, hb]

theorem deleted_keepLast : (b.keepLast radius).deleted = b.deleted := by
  cases hb : b.isEqual <;> simp [keepLast, deleted, equal, hb]

theorem keepLast_fits (radius : Nat) (h : b.Fits old new i j) :
    ∃ skip, SameRun old new i j skip ∧ (b.keepLast radius).Fits old new (i + skip) (j + skip) ∧
      i + b.oldLength = i + skip + (b.keepLast radius).oldLength ∧
      j + b.newLength = j + skip + (b.keepLast radius).newLength ∧
      (b.old = i → (b.keepLast radius).old = i + skip) ∧
      b.kept = skip + (b.keepLast radius).kept := by
  cases hb : b.isEqual with
  | false =>
    obtain ⟨hold, hnew, -⟩ := h.bounds
    refine ⟨0, SameRun.zero (by omega) (by omega), ?_⟩
    simpa [keepLast, kept, hb] using h
  | true =>
    obtain ⟨heq, hrun⟩ := h.eq_equal hb
    generalize b.oldLength = length at heq hrun
    subst heq
    refine ⟨length - radius, hrun.take (Nat.sub_le _ _), ?_⟩
    simp only [keepLast, kept, equal, if_true]
    refine ⟨fits_equal.mpr ⟨rfl, rfl, hrun.drop (Nat.sub_le _ _)⟩, ?_, ?_, fun _ ↦ trivial, ?_⟩
    · omega
    · omega
    · omega

theorem keepFirst_fits (radius : Nat) (h : b.Fits old new i j) :
    ∃ skip, (b.keepFirst radius).Fits old new i j ∧
      SameRun old new (i + (b.keepFirst radius).oldLength) (j + (b.keepFirst radius).newLength)
        skip ∧
      i + b.oldLength = i + (b.keepFirst radius).oldLength + skip ∧
      j + b.newLength = j + (b.keepFirst radius).newLength + skip ∧
      b.kept = (b.keepFirst radius).kept + skip := by
  cases hb : b.isEqual with
  | false =>
    obtain ⟨hold, hnew, -⟩ := h.bounds
    have hkeep : b.keepFirst radius = b := by simp [keepFirst, hb]
    rw [hkeep]
    exact ⟨0, h, SameRun.zero hold hnew, rfl, rfl, rfl⟩
  | true =>
    obtain ⟨heq, hrun⟩ := h.eq_equal hb
    generalize b.oldLength = length at heq hrun
    subst heq
    have hmin : min length radius ≤ length := Nat.min_le_left _ _
    refine ⟨length - min length radius, ?_⟩
    simp only [keepFirst, kept, equal, if_true]
    refine ⟨fits_equal.mpr ⟨rfl, rfl, hrun.take hmin⟩, hrun.drop hmin, ?_, ?_, ?_⟩
    · omega
    · omega
    · omega

/-- The name of an empty run is the same, however many lines were cut away before the block. -/
theorem namesWithin_keepLast {skip : Nat} (h : b.NamesWithin inserts k d)
    (hskip : b.kept = skip + (b.keepLast radius).kept) :
    (b.keepLast radius).NamesWithin inserts (k + skip) d := by
  cases hb : b.isEqual with
  | true => exact namesWithin_of_isEqual (isEqual_keepLast.trans hb)
  | false =>
    have hzero : b.kept = 0 := by simp [kept, hb]
    have hkeep : b.keepLast radius = b := by simp [keepLast, hb]
    obtain rfl : skip = 0 := by omega
    rwa [hkeep]

theorem namesWithin_keepFirst (h : b.NamesWithin inserts k d) :
    (b.keepFirst radius).NamesWithin inserts k d := by
  cases hb : b.isEqual with
  | true => exact namesWithin_of_isEqual (isEqual_keepFirst.trans hb)
  | false =>
    have hkeep : b.keepFirst radius = b := by simp [keepFirst, hb]
    rwa [hkeep]

end Block

/-! ## Cutting the first block -/

/-- The number of lines that the first of some blocks keeps. -/
def lead (bs : List Block) : Nat := (bs.head?.map Block.kept).getD 0

section

variable {bs cs : List Block}

theorem lead_append (h : bs ≠ []) : lead (bs ++ cs) = lead bs := by
  obtain ⟨b, bs, rfl⟩ := List.exists_cons_of_ne_nil h
  rfl

theorem lead_modifyFirst (radius : Nat) (bs : List Block) :
    lead (modifyFirst (Block.keepLast radius) bs) = min radius (lead bs) := by
  cases bs with
  | nil => exact (Nat.min_zero _).symm
  | cons b bs => exact Block.kept_keepLast

theorem Alternating.cutFirst (h : Alternating bs) :
    Alternating (modifyFirst (Block.keepLast radius) bs) := by
  refine h.congr ?_ fun _ hc hchange ↦ mem_of_mem_modifyFirst hc hchange
  cases bs with
  | nil => rfl
  | cons b bs => exact congrArg (· :: _) Block.isEqual_keepLast

theorem modifyFirst_keepLast_covers (radius : Nat) (h : BlocksCover old new i j bs i' j')
    (hstarts : StartsAt i bs) (hi : i ≤ old.size) (hj : j ≤ new.size) :
    ∃ skip, SameRun old new i j skip ∧
      BlocksCover old new (i + skip) (j + skip) (modifyFirst (Block.keepLast radius) bs) i' j' ∧
      StartsAt (i + skip) (modifyFirst (Block.keepLast radius) bs) ∧
      lead bs = skip + lead (modifyFirst (Block.keepLast radius) bs) := by
  cases bs with
  | nil => exact ⟨0, SameRun.zero hi hj, h, nofun, rfl⟩
  | cons b bs =>
    obtain ⟨hfits, hrest⟩ := h
    obtain ⟨skip, hrun, hfits', hold, hnew, hstarts', hkept⟩ := Block.keepLast_fits radius hfits
    refine ⟨skip, hrun, ⟨hfits', ?_⟩, startsAt_cons.mpr (hstarts' (startsAt_cons.mp hstarts)),
      hkept⟩
    simp only [Block.span] at hrest ⊢
    rwa [← hold, ← hnew]

theorem BlocksNamed.cutFirst {skip : Nat} (h : BlocksNamed inserts k d bs k' d')
    (hskip : lead bs = skip + lead (modifyFirst (Block.keepLast radius) bs)) :
    BlocksNamed inserts (k + skip) d (modifyFirst (Block.keepLast radius) bs) k' d' := by
  cases bs with
  | nil =>
    obtain rfl : 0 = skip := hskip
    exact h
  | cons b bs =>
    have hkept : b.kept = skip + (b.keepLast radius).kept := hskip
    obtain ⟨hnames, hrest⟩ := h
    refine ⟨Block.namesWithin_keepLast hnames hkept, ?_⟩
    simp only [Block.share, hkept, ← Nat.add_assoc] at hrest
    rwa [Block.share, Block.deleted_keepLast]

end

/-! ## Cutting the last block -/

def trail (bs : List Block) : Nat := (bs.getLast?.map Block.kept).getD 0

section

variable {b : Block} {bs cs : List Block}

theorem trail_concat : trail (bs ++ [b]) = b.kept := by
  rw [trail, List.getLast?_concat]
  rfl

theorem trail_append (bs : List Block) (h : cs ≠ []) : trail (bs ++ cs) = trail cs := by
  rw [trail, List.getLast?_append_of_ne_nil _ h]
  rfl

theorem trail_cons (h : bs ≠ []) : trail (b :: bs) = trail bs := trail_append [b] h

theorem modifyLast_ne_nil {f : Block → Block} (h : bs ≠ []) : modifyLast f bs ≠ [] := by
  cases bs using modifyLast.induct with
  | case1 => exact absurd rfl h
  | case2 b => exact List.cons_ne_nil _ _
  | case3 b c rest => exact List.cons_ne_nil _ _

theorem trail_modifyLast (radius : Nat) (bs : List Block) :
    trail (modifyLast (Block.keepFirst radius) bs) = min radius (trail bs) := by
  induction bs using modifyLast.induct with
  | case1 => exact (Nat.min_zero _).symm
  | case2 b => exact Block.kept_keepFirst
  | case3 b c rest ih =>
    rw [modifyLast, trail_cons (modifyLast_ne_nil (List.cons_ne_nil _ _)), ih,
      trail_cons (b := b) (List.cons_ne_nil _ _)]

theorem lead_modifyLast (h : lead bs ≤ radius) :
    lead (modifyLast (Block.keepFirst radius) bs) = lead bs := by
  cases bs using modifyLast.induct with
  | case1 => rfl
  | case2 b => exact Block.kept_keepFirst.trans (Nat.min_eq_right h)
  | case3 b c rest => rfl

theorem Alternating.cutLast (h : Alternating bs) :
    Alternating (modifyLast (Block.keepFirst radius) bs) := by
  refine h.congr ?_ fun _ hc hchange ↦ mem_of_mem_modifyLast hc hchange
  clear h
  induction bs using modifyLast.induct with
  | case1 => rfl
  | case2 b => exact congrArg (fun kind ↦ [kind]) Block.isEqual_keepFirst
  | case3 b c rest ih => exact congrArg (List.cons b.isEqual) ih

theorem startsAt_modifyLast (h : StartsAt i bs) :
    StartsAt i (modifyLast (Block.keepFirst radius) bs) := by
  cases bs using modifyLast.induct with
  | case1 => exact h
  | case2 b => exact startsAt_cons.mpr (Block.keepFirst_old.trans (startsAt_cons.mp h))
  | case3 b c rest => exact startsAt_cons.mpr (startsAt_cons.mp h)

theorem modifyLast_keepFirst_covers (radius : Nat) (h : BlocksCover old new i j bs i' j')
    (hi' : i' ≤ old.size) (hj' : j' ≤ new.size) :
    ∃ a b skip, BlocksCover old new i j (modifyLast (Block.keepFirst radius) bs) a b ∧
      SameRun old new a b skip ∧ i' = a + skip ∧ j' = b + skip ∧
      trail bs = trail (modifyLast (Block.keepFirst radius) bs) + skip := by
  induction bs using modifyLast.induct generalizing i j with
  | case1 => exact ⟨i', j', 0, h, SameRun.zero hi' hj', rfl, rfl, rfl⟩
  | case2 b =>
    obtain ⟨hfits, rfl, rfl⟩ := h
    obtain ⟨skip, hfits', hrun, hold, hnew, hkept⟩ := Block.keepFirst_fits radius hfits
    exact ⟨_, _, skip, chain_singleton hfits', hrun, hold, hnew, hkept⟩
  | case3 b c rest ih =>
    obtain ⟨hfits, hrest⟩ := h
    obtain ⟨a, d, skip, hcovers, hrun, hold, hnew, hkept⟩ := ih hrest
    refine ⟨a, d, skip, ⟨hfits, hcovers⟩, hrun, hold, hnew, ?_⟩
    rw [modifyLast, trail_cons (modifyLast_ne_nil (List.cons_ne_nil _ _)),
      trail_cons (List.cons_ne_nil _ _)]
    exact hkept

theorem BlocksNamed.cutLast {skip : Nat} (h : BlocksNamed inserts k d bs k' d')
    (hskip : trail bs = trail (modifyLast (Block.keepFirst radius) bs) + skip) :
    ∃ a, BlocksNamed inserts k d (modifyLast (Block.keepFirst radius) bs) a d' ∧
      k' = a + skip := by
  induction bs using modifyLast.induct generalizing k d with
  | case1 =>
    obtain ⟨rfl, rfl⟩ := h
    exact ⟨k', ⟨rfl, rfl⟩, congrArg (k' + ·) (hskip.trans (Nat.zero_add _))⟩
  | case2 b =>
    obtain ⟨hnames, rfl, rfl⟩ := h
    have hkept : b.kept = (b.keepFirst radius).kept + skip := hskip
    refine ⟨k + (b.keepFirst radius).kept, ⟨Block.namesWithin_keepFirst hnames, rfl, ?_⟩, ?_⟩
    · rw [Block.share, Block.share, Block.deleted_keepFirst]
    · rw [Block.share, hkept, Nat.add_assoc]
  | case3 b c rest ih =>
    obtain ⟨hnames, hrest⟩ := h
    rw [modifyLast, trail_cons (modifyLast_ne_nil (List.cons_ne_nil _ _)),
      trail_cons (List.cons_ne_nil _ _)] at hskip
    obtain ⟨a, hcut, hend⟩ := ih hrest hskip
    exact ⟨a, ⟨hnames, hcut⟩, hend⟩

end

/-! ## Groups of changes -/

/-- A group with a change, in which no equal block is so long that it is cut. -/
structure Proper (radius : Nat) (group : List Block) : Prop where
  alternating : Alternating group
  change : ∃ b ∈ group, b.isEqual = false
  short : ∀ b ∈ group, b.kept ≤ radius * 2

theorem Proper.ne_nil {group : List Block} (h : Proper radius group) : group ≠ [] := by
  obtain ⟨b, hb, -⟩ := h.change
  exact List.ne_nil_of_mem hb

/-- Groups that lead from a pair of places to the ends of both sequences, over equal lines before,
between and after them. Every group is proper, names the old place where it starts, and keeps as
many lines at its start and at its end as there are next to it, up to the radius; if a group is
before them, then `shown` is the number of lines that it keeps at its end. At least one line is left
out between two groups. The changes name places within the bound behind `k` equal and `d` deleted
lines, and the bound is the number of the new lines that are not equal. -/
def GroupsCut (radius inserts : Nat) (old new : Array α) :
    Option Nat → Nat → Nat → Nat → Nat → List (List Block) → Prop
  | shown, i, j, k, _, [] => ∃ skip, SameRun old new i j skip ∧ old.size = i + skip ∧
      new.size = j + skip ∧ new.size = k + skip + inserts ∧ ∀ s ∈ shown, s = min radius (s + skip)
  | shown, i, j, k, d, group :: groups => ∃ skip a b k' d', SameRun old new i j skip ∧
      (∀ s ∈ shown, s = min radius (s + skip) ∧ 0 < skip) ∧
      lead group = min radius (skip + lead group) ∧ Proper radius group ∧
      StartsAt (i + skip) group ∧ BlocksCover old new (i + skip) (j + skip) group a b ∧
      BlocksNamed inserts (k + skip) d group k' d' ∧
        GroupsCut radius inserts old new (some (trail group)) a b k' d' groups

/-- Groups that are cut cover both sequences. -/
theorem GroupsCut.covers {gs : List (List Block)} {shown : Option Nat}
    (h : GroupsCut radius inserts old new shown i j k d gs) :
    GroupsCover old new i j gs old.size new.size := by
  induction gs generalizing shown i j k d with
  | nil =>
    obtain ⟨skip, hrun, hold, hnew, -⟩ := h
    exact ⟨skip, hrun, hold, hnew⟩
  | cons group gs ih =>
    obtain ⟨skip, a, b, k', d', hrun, -, -, hproper, hstarts, hcovers, -, hrest⟩ := h
    exact ⟨skip, a, b, hrun, hproper.ne_nil, hstarts, hcovers, ih hrest⟩

/-! ## Cutting into groups -/

section

variable {group rest : List Block} {b : Block}

theorem sameRun_of_isIdle (hidle : isIdle group = true)
    (h : BlocksCover old new (i + n) (j + n) group.reverse i' j')
    (hnamed : BlocksNamed inserts k d group.reverse k' d') (hrun : SameRun old new i j n) :
    ∃ l, SameRun old new (i + n) (j + n) l ∧ i' = i + n + l ∧ j' = j + n + l ∧ k' = k + l := by
  match group with
  | [] => exact ⟨0, SameRun.zero hrun.old_le hrun.new_le, h.1, h.2, hnamed.1⟩
  | [b] =>
    obtain ⟨hfits, rfl, rfl⟩ := h
    obtain ⟨-, rfl, -⟩ := hnamed
    obtain ⟨heq, hrun⟩ := hfits.eq_equal hidle
    refine ⟨b.oldLength, hrun, rfl, ?_, ?_⟩
    · rw [heq]
      rfl
    · rw [Block.share_of_isEqual hidle]

theorem exists_change_of_not_isIdle (h : Alternating group.reverse) (hidle : isIdle group = false) :
    ∃ b ∈ group.reverse, b.isEqual = false := by
  match group with
  | [] => exact absurd hidle.symm Bool.false_ne_true
  | [b] => exact ⟨b, List.mem_singleton_self b, hidle⟩
  | b :: c :: rest =>
    refine h.exists_change ?_
    rw [List.length_reverse]
    exact Nat.le_add_left 2 _

theorem startsAt_reverse_keepFirst (radius : Nat) (h : StartsAt i (group.reverse ++ b :: rest)) :
    StartsAt i (b.keepFirst radius :: group).reverse := by
  rw [List.reverse_cons]
  by_cases hgroup : group.reverse = []
  · rw [hgroup, List.nil_append, startsAt_cons] at h
    rw [hgroup, List.nil_append, startsAt_cons, Block.keepFirst_old]
    exact h
  · rw [startsAt_append hgroup] at h ⊢
    exact h

theorem exists_gap (h : BlocksCover old new i j (b :: rest) i' j') (hequal : b.isEqual = true)
    (hlength : radius * 2 < b.oldLength) :
    ∃ a c gap, BlocksCover old new i j [b.keepFirst radius] a c ∧ SameRun old new a c gap ∧
      BlocksCover old new (a + gap) (c + gap) (b.keepLast radius :: rest) i' j' ∧
        (b.keepLast radius).old = a + gap ∧ b.oldLength = radius + gap + radius := by
  obtain ⟨hfits, hrest⟩ := h
  obtain ⟨heq, hrun⟩ := hfits.eq_equal hequal
  generalize b.oldLength = length at heq hrun hlength
  subst heq
  rw [Block.span_equal] at hrest
  have hfirst : (Block.equal i j length).keepFirst radius = .equal i j radius := by
    simp only [Block.keepFirst, Block.equal, if_true]
    rw [Nat.min_eq_right (by omega)]
  have hgap : i + radius + (length - radius - radius) = i + (length - radius) := by omega
  have hgap' : j + radius + (length - radius - radius) = j + (length - radius) := by omega
  have hlast : (Block.equal i j length).keepLast radius
      = .equal (i + (length - radius)) (j + (length - radius)) radius := by
    simp only [Block.keepLast, Block.equal, if_true]
    rw [Nat.sub_sub_self (by omega)]
  have hshown : SameRun old new i j radius := hrun.take (by omega)
  have hback : SameRun old new (i + (length - radius)) (j + (length - radius)) radius := by
    have := hrun.drop (Nat.sub_le length radius)
    rwa [Nat.sub_sub_self (by omega)] at this
  rw [hfirst, hlast]
  refine ⟨i + radius, j + radius, length - radius - radius, ?_, ?_, ?_, hgap.symm, ?_⟩
  · exact chain_singleton (Block.fits_equal.mpr ⟨rfl, rfl, hshown⟩)
  · exact (hrun.drop (show radius ≤ length by omega)).take (Nat.sub_le _ _)
  · rw [hgap, hgap']
    refine ⟨Block.fits_equal.mpr ⟨rfl, rfl, hback⟩, ?_⟩
    rw [Block.span_equal, show i + (length - radius) + radius = i + length by omega,
      show j + (length - radius) + radius = j + length by omega]
    exact hrest
  · omega

/-- A long equal block keeps the radius on both sides and counts as kept in between. -/
theorem BlocksNamed.cutLong {gap : Nat} (h : BlocksNamed inserts k d (group ++ b :: rest) k' d')
    (hequal : b.isEqual = true) (hgap : b.oldLength = radius + gap + radius)
    (hfirst : (b.keepFirst radius).kept = radius) (hlast : (b.keepLast radius).kept = radius) :
    ∃ a e, BlocksNamed inserts k d (group ++ [b.keepFirst radius]) a e ∧
      BlocksNamed inserts (a + gap) e (b.keepLast radius :: rest) k' d' := by
  obtain ⟨a, e, hgroup, -, hrest⟩ := chain_append.mp h
  rw [Block.share_of_isEqual hequal] at hrest
  have hfirst' : (b.keepFirst radius).isEqual = true := Block.isEqual_keepFirst.trans hequal
  have hlast' : (b.keepLast radius).isEqual = true := Block.isEqual_keepLast.trans hequal
  refine ⟨a + radius, e, hgroup.append ⟨Block.namesWithin_of_isEqual hfirst', ?_⟩,
    Block.namesWithin_of_isEqual hlast', ?_⟩
  · rw [Block.share, hfirst, Block.deleted, if_pos hfirst']
    exact ⟨rfl, rfl⟩
  · rw [Block.share, hlast, Block.deleted, if_pos hlast']
    rwa [hgap, ← Nat.add_assoc, ← Nat.add_assoc] at hrest

/-- A block at which a group is cut ends a group with a change: the block before it is one. -/
theorem proper_cut (h : Alternating (group.reverse ++ b :: rest)) (hequal : b.isEqual = true)
    (hgroup : group ≠ []) (hshort : ∀ c ∈ group, c.kept ≤ radius * 2)
    (hkept : (b.keepFirst radius).kept = radius) :
    Proper radius (b.keepFirst radius :: group).reverse := by
  rw [List.reverse_cons]
  have hfront : Alternating (group.reverse ++ [b]) := by
    rw [← List.singleton_append, ← List.append_assoc] at h
    exact h.left
  have halternating : Alternating (group.reverse ++ [b.keepFirst radius]) := by
    refine hfront.congr ?_ fun c hc hfalse ↦ ?_
    · simp only [List.map_append, List.map_cons, Block.isEqual_keepFirst]
    · rcases List.mem_append.mp hc with hc | hc
      · exact List.mem_append_left _ hc
      · obtain rfl := List.mem_singleton.mp hc
        rw [Block.isEqual_keepFirst, hequal] at hfalse
        exact absurd hfalse.symm Bool.false_ne_true
  refine ⟨halternating, halternating.exists_change ?_, fun c hc ↦ ?_⟩
  · have := List.length_pos_of_ne_nil hgroup
    rw [List.length_append, List.length_reverse, List.length_singleton]
    omega
  · rcases List.mem_append.mp hc with hc | hc
    · exact hshort c (List.mem_reverse.mp hc)
    · obtain rfl := List.mem_singleton.mp hc
      omega

theorem Alternating.cutLong (h : Alternating (group ++ b :: rest)) (hequal : b.isEqual = true) :
    Alternating (b.keepLast radius :: rest) := by
  refine h.right.congr ?_ fun c hc hfalse ↦ ?_
  · rw [List.map_cons, List.map_cons, Block.isEqual_keepLast]
  · rcases List.mem_cons.mp hc with rfl | hc
    · rw [Block.isEqual_keepLast, hequal] at hfalse
      exact absurd hfalse.symm Bool.false_ne_true
    · exact List.mem_cons_of_mem _ hc

/-- The blocks at hand while groups are cut: those of the group so far, in order, and the rest. They
lead from behind `n` lines that are left out to `m` lines before the ends. -/
structure Cutting (radius inserts : Nat) (old new : Array α) (shown : Option Nat)
    (i j k d n m : Nat) (group rest : List Block) : Prop where
  /-- The lines before are equal. -/
  before : SameRun old new i j n
  /-- The blocks cover the way, and the lines behind them are equal. -/
  covers : ∃ a b, BlocksCover old new (i + n) (j + n) (group ++ rest) a b ∧
    SameRun old new a b m ∧ old.size = a + m ∧ new.size = b + m
  /-- The first block names its old place. -/
  starts : StartsAt (i + n) (group ++ rest)
  /-- The changes name places within the bound. -/
  named : ∃ a e, BlocksNamed inserts (k + n) d (group ++ rest) a e ∧ new.size = a + m + inserts
  alternating : Alternating (group ++ rest)
  short : ∀ b ∈ group, b.kept ≤ radius * 2
  /-- The first block keeps the lines next to it. -/
  lead_eq : lead (group ++ rest) = min radius (n + lead (group ++ rest))
  /-- The last block keeps the lines next to it. -/
  trail_eq : trail (group ++ rest) = min radius (trail (group ++ rest) + m)
  /-- A group before ends with as many lines as the radius allows, and lines are left out. -/
  shown_eq : ∀ s ∈ shown, s = radius ∧ 0 < n

namespace Cutting

variable {shown : Option Nat} {bs : List Block}

theorem shown_min (h : Cutting radius inserts old new shown i j k d n m group rest) (e : Nat) :
    ∀ s ∈ shown, s = min radius (s + e) := by
  intro s hs
  obtain ⟨rfl, -⟩ := h.shown_eq s hs
  exact (Nat.min_eq_left (Nat.le_add_right _ _)).symm

theorem last (h : Cutting radius inserts old new shown i j k d n m group.reverse []) :
    GroupsCut radius inserts old new shown i j k d
      (if isIdle group then [] else [group.reverse]) := by
  obtain ⟨a, b, hcovers, hrun', hold, hnew⟩ := h.covers
  obtain ⟨a', e, hnamed, hcount⟩ := h.named
  have halternating := h.alternating
  have hstarts := h.starts
  have hlead := h.lead_eq
  have htrail := h.trail_eq
  rw [List.append_nil] at hcovers hnamed halternating hstarts hlead htrail
  cases hidle : isIdle group with
  | true =>
    obtain ⟨l, hl, rfl, rfl, rfl⟩ := sameRun_of_isIdle hidle hcovers hnamed h.before
    refine ⟨n + l + m, ?_, by omega, by omega, by omega, h.shown_min _⟩
    refine (h.before.append hl).append ?_
    rwa [← Nat.add_assoc, ← Nat.add_assoc]
  | false =>
    refine ⟨n, a, b, a', e, h.before, fun s hs ↦ ⟨h.shown_min n s hs, (h.shown_eq s hs).2⟩, hlead,
      ⟨halternating, exists_change_of_not_isIdle halternating hidle, h.short⟩, hstarts, hcovers,
      hnamed, m, hrun', hold, hnew, hcount, fun s hs ↦ ?_⟩
    obtain rfl := Option.some.inj hs
    exact htrail

theorem join (h : Cutting radius inserts old new shown i j k d n m group.reverse (b :: rest))
    (hshort : b.kept ≤ radius * 2) :
    Cutting radius inserts old new shown i j k d n m (b :: group).reverse rest := by
  have hlist : (b :: group).reverse ++ rest = group.reverse ++ b :: rest := by
    rw [List.reverse_cons, List.append_assoc, List.singleton_append]
  obtain ⟨hbefore, hcovers, hstarts, hnamed, halternating, hgroup, hlead, htrail, hshown⟩ := h
  rw [← hlist] at hcovers hstarts hnamed halternating hlead htrail
  refine ⟨hbefore, hcovers, hstarts, hnamed, halternating, fun c hc ↦ ?_, hlead, htrail, hshown⟩
  rcases List.mem_cons.mp (List.mem_reverse.mp hc) with rfl | hc
  · exact hshort
  · exact hgroup c (List.mem_reverse.mpr hc)

/-- A block that opens all groups keeps no more lines than the radius, so no group is empty where it
is cut. -/
theorem ne_nil (h : Cutting radius inserts old new shown i j k d n m group.reverse (b :: rest))
    (hequal : b.isEqual = true) (hlong : radius * 2 < b.oldLength) : group ≠ [] := by
  rintro rfl
  have hlead := h.lead_eq
  have hkept : lead (b :: rest) = b.oldLength := if_pos hequal
  rw [List.reverse_nil, List.nil_append, hkept] at hlead
  omega

/-- Where a group is cut, it ends as a proper group with the first lines of the block, and the next
one starts with its last lines. -/
theorem cut (h : Cutting radius inserts old new shown i j k d n m group.reverse (b :: rest))
    (hequal : b.isEqual = true) (hlong : radius * 2 < b.oldLength) :
    ∃ a c a' e gap, StartsAt (i + n) (b.keepFirst radius :: group).reverse ∧
      Proper radius (b.keepFirst radius :: group).reverse ∧
      lead (b.keepFirst radius :: group).reverse =
        min radius (n + lead (b.keepFirst radius :: group).reverse) ∧
      trail (b.keepFirst radius :: group).reverse = radius ∧
      BlocksCover old new (i + n) (j + n) (b.keepFirst radius :: group).reverse a c ∧
      BlocksNamed inserts (k + n) d (b.keepFirst radius :: group).reverse a' e ∧
      Cutting radius inserts old new (some radius) a c a' e gap m [b.keepLast radius].reverse
        rest := by
  have hgroup := h.ne_nil hequal hlong
  have hreverse : group.reverse ≠ [] := List.reverse_ne_nil_iff.mpr hgroup
  have hkept : b.kept = b.oldLength := if_pos hequal
  have hfirst : (b.keepFirst radius).kept = radius := by
    rw [Block.kept_keepFirst, hkept]
    omega
  have hlast : (b.keepLast radius).kept = radius := by
    rw [Block.kept_keepLast, hkept]
    omega
  obtain ⟨x, y, hcovers, hafter, hold, hnew⟩ := h.covers
  obtain ⟨a, c, hbefore, hblock⟩ := chain_append.mp hcovers
  obtain ⟨a', c', gap, hcoverFirst, hrun, hcoverLast, hplace, hlength⟩ :=
    exists_gap hblock hequal hlong
  obtain ⟨z, w, hnamed, hcount⟩ := h.named
  obtain ⟨k', e, hnamedFirst, hnamedLast⟩ := hnamed.cutLong hequal hlength hfirst hlast
  have hlead := h.lead_eq
  rw [lead_append hreverse] at hlead
  have htrail := h.trail_eq
  rw [trail_append _ (List.cons_ne_nil _ _)] at htrail
  have hproper := proper_cut h.alternating hequal hgroup
    (fun c hc ↦ h.short c (List.mem_reverse.mpr hc)) hfirst
  refine ⟨a', c', k', e, gap, startsAt_reverse_keepFirst radius h.starts, hproper, ?_, ?_, ?_, ?_,
    ⟨hrun, ⟨x, y, hcoverLast, hafter, hold, hnew⟩, startsAt_cons.mpr hplace,
      ⟨z, w, hnamedLast, hcount⟩, h.alternating.cutLong hequal, ?_, ?_, ?_, ?_⟩⟩
  · rw [List.reverse_cons, lead_append hreverse]
    exact hlead
  · rw [List.reverse_cons, trail_concat, hfirst]
  · rw [List.reverse_cons]
    exact hbefore.append hcoverFirst
  · rwa [List.reverse_cons]
  · intro c hc
    obtain rfl := List.mem_singleton.mp (List.mem_reverse.mp hc)
    omega
  · change (b.keepLast radius).kept = min radius (gap + (b.keepLast radius).kept)
    omega
  · -- The block that is cut may be the last one of all.
    by_cases hrest : rest = []
    · subst hrest
      change (b.keepLast radius).kept = min radius ((b.keepLast radius).kept + m)
      omega
    · rw [trail_cons hrest] at htrail
      rw [trail_append _ hrest]
      exact htrail
  · intro s hs
    exact ⟨(Option.some.inj hs).symm, by omega⟩

end Cutting

theorem groupsCut_groupsFrom {shown : Option Nat}
    (h : Cutting radius inserts old new shown i j k d n m group.reverse rest) :
    GroupsCut radius inserts old new shown i j k d (groupsFrom radius group rest) := by
  induction rest generalizing group shown i j k d n with
  | nil => exact h.last
  | cons b rest ih =>
    rw [groupsFrom]
    by_cases hcut : b.isEqual ∧ radius * 2 < b.oldLength
    · rw [if_pos hcut]
      obtain ⟨a, c, a', e, gap, hstarts, hproper, hlead, htrail, hcovers, hnamed, hnext⟩ :=
        h.cut hcut.1 hcut.2
      refine ⟨n, a, c, a', e, h.before, fun s hs ↦ ⟨h.shown_min n s hs, (h.shown_eq s hs).2⟩,
        hlead, hproper, hstarts, hcovers, hnamed, ?_⟩
      rw [htrail]
      exact ih hnext
    · rw [if_neg hcut]
      refine ih (h.join ?_)
      rw [Block.kept]
      split
      next hequal => exact Nat.not_lt.mp fun hlong ↦ hcut ⟨hequal, hlong⟩
      next => exact Nat.zero_le _

end

/-- **Groups are cut to the radius**, and cover both sequences with what is left out. -/
theorem groupsCut_groupsBetween [BEq α] [LawfulBEq α] (radius : Nat) (old new : Array α) :
    ∃ inserts, GroupsCut radius inserts old new none 0 0 0 0 (groupsBetween radius old new) := by
  have hanchored := settle_rawScript_anchored old new
  obtain ⟨k, d, inserts, hold, hnew, hnamed⟩ := blocksNamed_settle old new
  obtain ⟨skip, hrun, hfirst, hstarts, hskip⟩ := modifyFirst_keepLast_covers radius
    (blocksCover_blocks hanchored.covers) (startsAt_blocks hanchored) (Nat.zero_le _)
    (Nat.zero_le _)
  obtain ⟨a, b, skip', hlast, hrun', hold', hnew', hskip'⟩ :=
    modifyLast_keepFirst_covers radius hfirst (Nat.le_refl _) (Nat.le_refl _)
  obtain ⟨a', hcut, rfl⟩ := (hnamed.cutFirst hskip).cutLast hskip'
  have hlead := lead_modifyFirst radius (blocks (settle old new (rawScript old new)))
  have hlead' := lead_modifyLast (hlead.trans_le (Nat.min_le_left _ _))
  have htrail := trail_modifyLast radius (modifyFirst (Block.keepLast radius)
    (blocks (settle old new (rawScript old new))))
  have hcutting : Cutting radius inserts old new none 0 0 0 0 skip skip' [].reverse
      (modifyLast (Block.keepFirst radius) (modifyFirst (Block.keepLast radius)
        (blocks (settle old new (rawScript old new))))) := by
    refine ⟨hrun, ⟨a, b, hlast, hrun', hold', hnew'⟩, startsAt_modifyLast hstarts,
      ⟨a', d, hcut, hnew⟩, (alternating_blocks hanchored.covers).cutFirst.cutLast, nofun, ?_, ?_,
      nofun⟩
    · rw [List.reverse_nil, List.nil_append, hlead', ← hskip]
      exact hlead
    · rw [List.reverse_nil, List.nil_append, ← hskip']
      exact htrail
  exact ⟨inserts, groupsCut_groupsFrom hcutting⟩

theorem groupsCover_groupsBetween [BEq α] [LawfulBEq α] (radius : Nat) (old new : Array α) :
    GroupsCover old new 0 0 (groupsBetween radius old new) old.size new.size := by
  obtain ⟨inserts, hcut⟩ := groupsCut_groupsBetween radius old new
  exact hcut.covers

end Redline.Diff
