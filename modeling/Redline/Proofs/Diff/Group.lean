import Redline.Diff.Group
import Redline.Proofs.Diff.Settle

/-!
# Groups cover both sequences

The blocks of a covering script cover the same places, and so do its groups together with the equal
lines that are left out between them. A block need not name its true places: an empty run may name
any. What counts is that a group names the old place where it starts, which it does if it starts
with an equal run or with a deletion, and a group that starts with an insertion is at the start of
both sequences.
-/

namespace Redline.Diff

variable {α : Type} {old new : Array α} {i j i' j' m n : Nat}

/-! ## Blocks in their places -/

namespace Block

def span (b : Block) : Nat × Nat := (b.oldLength, b.newLength)

def kept (b : Block) : Nat := if b.isEqual then b.oldLength else 0

/-- A block that only inserts: its run in the old sequence is empty. -/
def IsInsertion (b : Block) : Prop := b.isEqual = false ∧ b.oldLength = 0

/-- A block that only deletes: its run in the new sequence is empty. -/
def IsDeletion (b : Block) : Prop := b.isEqual = false ∧ b.newLength = 0

instance (b : Block) : Decidable b.IsInsertion :=
  inferInstanceAs (Decidable (b.isEqual = false ∧ b.oldLength = 0))

instance (b : Block) : Decidable b.IsDeletion :=
  inferInstanceAs (Decidable (b.isEqual = false ∧ b.newLength = 0))

/-- A block whose runs lie at the given places. A change names the place of each of its runs that is
not empty. -/
def Fits (old new : Array α) (i j : Nat) (b : Block) : Prop :=
  if b.isEqual then
    b.old = i ∧ b.new = j ∧ b.newLength = b.oldLength ∧ SameRun old new i j b.oldLength
  else
    i + b.oldLength ≤ old.size ∧ j + b.newLength ≤ new.size ∧ b.new ≤ new.size ∧
      (0 < b.oldLength → b.old = i) ∧ (0 < b.newLength → b.new = j)

variable {a b k l : Nat} {x : Block}

@[simp] theorem span_equal : (Block.equal a b n).span = (n, n) := rfl

@[simp] theorem span_mk {isEqual : Bool} : (⟨isEqual, a, k, b, l⟩ : Block).span = (k, l) := rfl

@[simp] theorem fits_equal :
    (Block.equal a b n).Fits old new i j ↔ a = i ∧ b = j ∧ SameRun old new i j n := by
  simp [Fits, Block.equal]

@[simp] theorem fits_change : (⟨false, a, k, b, l⟩ : Block).Fits old new i j ↔
    i + k ≤ old.size ∧ j + l ≤ new.size ∧ b ≤ new.size ∧ (0 < k → a = i) ∧ (0 < l → b = j) := by
  simp [Fits]

theorem Fits.eq_equal (h : x.Fits old new i j) (hx : x.isEqual = true) :
    x = .equal i j x.oldLength ∧ SameRun old new i j x.oldLength := by
  obtain ⟨isEqual, a, k, b, l⟩ := x
  obtain rfl : isEqual = true := hx
  obtain ⟨hold, hnew, hlength, hrun⟩ := h
  dsimp only at hold hnew hlength hrun
  subst hold hnew hlength
  exact ⟨rfl, hrun⟩

theorem Fits.bounds (h : x.Fits old new i j) :
    i + x.oldLength ≤ old.size ∧ j + x.newLength ≤ new.size ∧ x.new ≤ new.size := by
  cases hx : x.isEqual with
  | false =>
    rw [Fits, hx] at h
    exact ⟨h.1, h.2.1, h.2.2.1⟩
  | true =>
    rw [Fits, if_pos hx] at h
    obtain ⟨-, hnew, hlength, hrun⟩ := h
    have := hrun.old_le
    have := hrun.new_le
    exact ⟨by omega, by omega, by omega⟩

end Block

/-- A block that does not only insert names the place where it stands in the old sequence. -/
theorem Block.Fits.old_eq {x : Block} (h : x.Fits old new i j) (hx : ¬x.IsInsertion) :
    x.old = i := by
  rw [Block.Fits] at h
  split at h
  next => exact h.1
  next hequal =>
    exact h.2.2.2.1 (Nat.pos_of_ne_zero fun hzero ↦ hx ⟨Bool.eq_false_iff.mpr hequal, hzero⟩)

theorem Block.Fits.new_eq {x : Block} (h : x.Fits old new i j) (hx : ¬x.IsDeletion) :
    x.new = j := by
  rw [Block.Fits] at h
  split at h
  next => exact h.2.1
  next hequal =>
    exact h.2.2.2.2 (Nat.pos_of_ne_zero fun hzero ↦ hx ⟨Bool.eq_false_iff.mpr hequal, hzero⟩)

/-- Blocks that lead from the first pair of places to the second. -/
def BlocksCover (old new : Array α) : Nat → Nat → List Block → Nat → Nat → Prop :=
  Chain Block.span (Block.Fits old new)

theorem BlocksCover.bounds {bs : List Block} (h : BlocksCover old new i j bs i' j') :
    i ≤ i' ∧ j ≤ j' ∧ (bs ≠ [] → i' ≤ old.size ∧ j' ≤ new.size) := by
  induction bs generalizing i j with
  | nil =>
    obtain ⟨rfl, rfl⟩ := h
    exact ⟨Nat.le_refl _, Nat.le_refl _, fun hne ↦ absurd rfl hne⟩
  | cons b bs ih =>
    obtain ⟨hfits, hrest⟩ := h
    obtain ⟨hold, hnew, -⟩ := hfits.bounds
    obtain ⟨hle, hle', hsize⟩ := ih hrest
    refine ⟨Nat.le_trans (Nat.le_add_right _ _) hle, Nat.le_trans (Nat.le_add_right _ _) hle',
      fun _ ↦ ?_⟩
    by_cases hbs : bs = []
    · subst hbs
      obtain ⟨rfl, rfl⟩ := hrest
      exact ⟨hold, hnew⟩
    · exact hsize hbs

/-! ## From edits to blocks -/

namespace Pending

/-- What is pending leads from the first pair of places to the second. An equal run is pending
alone, and no change is empty. -/
structure Leads (old new : Array α) (i j : Nat) (p : Pending) (i' j' : Nat) : Prop where
  /-- As blocks it covers the way. -/
  covers : BlocksCover old new i j (p.equalBlocks ++ p.changeBlocks) i' j'
  /-- No change is pending together with an equal run. -/
  alone : p.equal = none ∨ p.delete = none ∧ p.insert = none
  delete_pos : ∀ d ∈ p.delete, 0 < d.length
  insert_pos : ∀ e ∈ p.insert, 0 < e.length
  old_le : i' ≤ old.size
  new_le : j' ≤ new.size

variable {e : Edit} {run : Option Edit}

/-- A pending equal run and a pending change are never both there, so one of them leads nowhere. -/
theorem Leads.split {p : Pending} (h : p.Leads old new i j i' j') :
    ∃ a b, BlocksCover old new i j p.equalBlocks a b ∧
      BlocksCover old new a b p.changeBlocks i' j' :=
  chain_append.mp h.covers

theorem leads_start : Leads old new 0 0 {} 0 0 :=
  ⟨⟨rfl, rfl⟩, Or.inl rfl, nofun, nofun, Nat.zero_le _, Nat.zero_le _⟩

theorem extend_pos (h : ∀ r ∈ run, 0 < r.length) (he : 0 < e.length) :
    ∀ r ∈ extend run e, 0 < r.length := by
  intro r hr
  cases run with
  | none =>
    obtain rfl := Option.mem_some.mp hr
    exact he
  | some d =>
    obtain rfl := Option.mem_some.mp hr
    exact Nat.add_pos_left (h d rfl) _

theorem Leads.extendEqual {p : Pending} (h : p.Leads old new i j i' j') (he : e.kind = .equal)
    (hfits : e.Fits old new i' j') :
    ∃ a b, BlocksCover old new i j p.changeBlocks a b ∧
      Leads old new a b ⟨extend p.equal e, none, none⟩ (i' + e.length) (j' + e.length) := by
  obtain ⟨equal, delete, insert⟩ := p
  obtain ⟨-, hold, hnew, hrun⟩ := (Edit.fits_equal he).mp hfits
  have hold_le := hrun.old_le
  have hnew_le := hrun.new_le
  obtain ⟨a, b, hequal, hchange⟩ := h.split
  cases equal with
  | none =>
    obtain ⟨rfl, rfl⟩ := hequal
    -- The pending change is closed, and the run is pending alone.
    exact ⟨i', j', hchange, ⟨Block.fits_equal.mpr ⟨hold, hnew, hrun⟩, rfl, rfl⟩, Or.inr ⟨rfl, rfl⟩,
      nofun, nofun, hold_le, hnew_le⟩
  | some r =>
    obtain ⟨rfl, rfl⟩ : delete = none ∧ insert = none := h.alone.resolve_left nofun
    obtain ⟨rfl, rfl⟩ := hchange
    obtain ⟨hfitsRun, rfl, rfl⟩ := hequal
    obtain ⟨hold', hnew', hrun'⟩ := Block.fits_equal.mp hfitsRun
    -- A pending run goes on with this one.
    refine ⟨i, j, ⟨rfl, rfl⟩, ⟨Block.fits_equal.mpr ⟨hold', hnew', hrun'.append hrun⟩, ?_, ?_⟩,
      Or.inr ⟨rfl, rfl⟩, nofun, nofun, hold_le, hnew_le⟩
    · exact Nat.add_assoc _ _ _
    · exact Nat.add_assoc _ _ _

theorem Leads.extendDelete {p : Pending} (h : p.Leads old new i j i' j') (he : e.kind = .delete)
    (hfits : e.Fits old new i' j') :
    ∃ a b, BlocksCover old new i j p.equalBlocks a b ∧
      Leads old new a b ⟨none, extend p.delete e, p.insert⟩ (i' + e.length) j' := by
  obtain ⟨hpos, hold, hold_le, hname⟩ := (Edit.fits_delete he).mp hfits
  have hnew_le := h.new_le
  have hdelete := h.delete_pos
  have hinsert := h.insert_pos
  obtain ⟨a, b, hequal, hchange⟩ := h.split
  refine ⟨a, b, hequal, ?_, Or.inl rfl, extend_pos hdelete hpos, hinsert, hold_le, hnew_le⟩
  obtain ⟨equal, delete, insert⟩ := p
  cases delete <;> cases insert <;>
    simp only [BlocksCover, equalBlocks, changeBlocks, extend, Edit.growRight, List.nil_append,
      chain_cons, chain_nil, Block.fits_change, Block.span_mk, Option.mem_def, Option.some.injEq,
      forall_eq'] at * <;> omega

theorem Leads.extendInsert {p : Pending} (h : p.Leads old new i j i' j') (he : e.kind = .insert)
    (hfits : e.Fits old new i' j') :
    ∃ a b, BlocksCover old new i j p.equalBlocks a b ∧
      Leads old new a b ⟨none, p.delete, extend p.insert e⟩ i' (j' + e.length) := by
  obtain ⟨hpos, hnew, hnew_le⟩ := (Edit.fits_insert he).mp hfits
  have hold_le := h.old_le
  have hdelete := h.delete_pos
  have hinsert := h.insert_pos
  obtain ⟨a, b, hequal, hchange⟩ := h.split
  refine ⟨a, b, hequal, ?_, Or.inl rfl, hdelete, extend_pos hinsert hpos, hold_le, hnew_le⟩
  obtain ⟨equal, delete, insert⟩ := p
  cases delete <;> cases insert <;>
    simp only [BlocksCover, equalBlocks, changeBlocks, extend, Edit.growRight, List.nil_append,
      chain_cons, chain_nil, Block.fits_change, Block.span_mk, Option.mem_def, Option.some.injEq,
      forall_eq'] at * <;> omega

end Pending

theorem blocksCover_blocksFrom {script : List Edit} {p : Pending} {i'' j'' : Nat}
    (h : p.Leads old new i j i' j') (hscript : Covers old new i' j' script i'' j'') :
    BlocksCover old new i j (blocksFrom p script) i'' j'' := by
  induction script generalizing p i j i' j' with
  | nil =>
    obtain ⟨rfl, rfl⟩ := hscript
    exact h.covers
  | cons e script ih =>
    obtain ⟨hfits, hrest⟩ := hscript
    cases he : e.kind with
    | equal =>
      rw [Edit.span_equal he] at hrest
      obtain ⟨a, b, hchange, hlead⟩ := h.extendEqual he hfits
      rw [blocksFrom, he]
      exact hchange.append (ih hlead hrest)
    | delete =>
      rw [Edit.span_delete he] at hrest
      obtain ⟨a, b, hequal, hlead⟩ := h.extendDelete he hfits
      rw [blocksFrom, he]
      exact hequal.append (ih hlead hrest)
    | insert =>
      rw [Edit.span_insert he] at hrest
      obtain ⟨a, b, hequal, hlead⟩ := h.extendInsert he hfits
      rw [blocksFrom, he]
      exact hequal.append (ih hlead hrest)

/-- **The blocks of a covering script cover the same places.** -/
theorem blocksCover_blocks {script : List Edit} (h : Covers old new 0 0 script i' j') :
    BlocksCover old new 0 0 (blocks script) i' j' :=
  blocksCover_blocksFrom Pending.leads_start h

/-! ## The first block -/

/-- The first of the blocks names the old place `i`. -/
def StartsAt (i : Nat) (bs : List Block) : Prop := ∀ b ∈ bs.head?, b.old = i

theorem startsAt_cons {b : Block} {bs : List Block} : StartsAt i (b :: bs) ↔ b.old = i := by
  simp [StartsAt]

theorem startsAt_append {bs cs : List Block} (h : bs ≠ []) :
    StartsAt i (bs ++ cs) ↔ StartsAt i bs := by
  cases bs with
  | nil => exact absurd rfl h
  | cons b bs => rw [List.cons_append, startsAt_cons, startsAt_cons]

theorem startsAt_blocksFrom_delete {d : Edit} {insert : Option Edit} {script : List Edit} :
    StartsAt d.old (blocksFrom ⟨none, some d, insert⟩ script) := by
  induction script generalizing d insert with
  | nil => cases insert <;> exact startsAt_cons.mpr rfl
  | cons e script ih =>
    cases he : e.kind with
    | equal => cases insert <;> (rw [blocksFrom, he]; exact startsAt_cons.mpr rfl)
    | delete => rw [blocksFrom, he]; exact ih
    | insert => rw [blocksFrom, he]; exact ih

theorem startsAt_blocksFrom_equal {e : Edit} {script : List Edit} :
    StartsAt e.old (blocksFrom ⟨some e, none, none⟩ script) := by
  induction script generalizing e with
  | nil => exact startsAt_cons.mpr rfl
  | cons next script ih =>
    cases hnext : next.kind with
    | equal => rw [blocksFrom, hnext]; exact ih
    | delete => rw [blocksFrom, hnext]; exact startsAt_cons.mpr rfl
    | insert => rw [blocksFrom, hnext]; exact startsAt_cons.mpr rfl

/-- Blocks that start with an insertion start with one that names no place beyond what is deleted
before the first equal run, so they start at the start. -/
theorem startsAt_blocksFrom_insert {insert : Option Edit} {script : List Edit}
    (hinsert : ∀ r ∈ insert, r.old ≤ headDeletes script)
    (hwithin : HeadWithin (headDeletes script) script) (hcovers : Covers old new 0 j script i' j') :
    StartsAt 0 (blocksFrom ⟨none, none, insert⟩ script) := by
  induction script generalizing insert j with
  | nil =>
    cases insert with
    | none => exact nofun
    | some r => exact startsAt_cons.mpr (Nat.le_zero.mp (hinsert r rfl))
  | cons e script ih =>
    obtain ⟨hfits, hrest⟩ := hcovers
    cases he : e.kind with
    | equal =>
      rw [blocksFrom, he]
      cases insert with
      | none =>
        have hold : e.old = 0 := ((Edit.fits_equal he).mp hfits).2.1
        rw [← hold]
        exact startsAt_blocksFrom_equal
      -- Nothing is deleted before the equal run, so the insertion names the start.
      | some r =>
        have hle := hinsert r rfl
        simp only [headDeletes, he] at hle
        exact startsAt_cons.mpr (Nat.le_zero.mp hle)
    | delete =>
      rw [blocksFrom, he]
      have hold : e.old = 0 := ((Edit.fits_delete he).mp hfits).2.1
      rw [← hold]
      exact startsAt_blocksFrom_delete
    | insert =>
      rw [Edit.span_insert he] at hrest
      simp only [HeadWithin, headDeletes, he] at hinsert hwithin
      rw [blocksFrom, he]
      refine ih ?_ hwithin.2 hrest
      intro r hr
      cases insert with
      | none =>
        obtain rfl := Option.mem_some.mp hr
        exact hwithin.1
      | some first =>
        obtain rfl := Option.mem_some.mp hr
        exact hinsert first rfl

theorem startsAt_blocks {script : List Edit} (h : Anchored old new 0 0 i' j' script) :
    StartsAt 0 (blocks script) :=
  startsAt_blocksFrom_insert nofun h.head h.covers

/-! ## Groups with the lines between them -/

/-- Groups that lead from the first pair of places to the second, over equal lines before, between
and after them. Every group shows something and names the old place where it starts. -/
def GroupsCover (old new : Array α) : Nat → Nat → List (List Block) → Nat → Nat → Prop
  | i, j, [], i', j' => ∃ skip, SameRun old new i j skip ∧ i' = i + skip ∧ j' = j + skip
  | i, j, group :: groups, i', j' =>
    ∃ skip a b, SameRun old new i j skip ∧ group ≠ [] ∧ StartsAt (i + skip) group ∧
      BlocksCover old new (i + skip) (j + skip) group a b ∧ GroupsCover old new a b groups i' j'

end Redline.Diff
