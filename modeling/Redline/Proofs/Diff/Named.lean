import Redline.Proofs.Diff.Bound

/-!
# The places that mere insertions and deletions name

A block that only inserts has an empty run in the old sequence, and one that only deletes has one in
the new sequence. The block takes over the place of such a run from an edit, so it is no earlier
than the equal lines before the block, and that of a mere deletion is later by no more than the
number of all inserted lines.

Blocks count the equal and the deleted lines as edits do, and the count goes on over the lines that
are cut from equal blocks.
-/

namespace Redline.Diff

variable {α : Type} {old new : Array α} {i j i' j' n radius inserts k d k' d' : Nat}

namespace Block

def deleted (b : Block) : Nat := if b.isEqual then 0 else b.oldLength

def share (b : Block) : Nat × Nat := (b.kept, b.deleted)

/-- The empty run of a change behind so many equal lines names a place that is no earlier than these
lines, and that of a deletion is not later by more than the bound. -/
structure NamesWithin (inserts kept _deleted : Nat) (b : Block) : Prop where
  /-- The old place that a mere insertion names. -/
  insert_old : b.IsInsertion → kept ≤ b.old
  /-- The new place that a mere deletion names. -/
  delete_new : b.IsDeletion → kept ≤ b.new ∧ b.new ≤ kept + inserts

variable {b : Block}

theorem namesWithin_of_isEqual (h : b.isEqual = true) : b.NamesWithin inserts k d :=
  ⟨fun ⟨hfalse, _⟩ ↦ absurd (h.symm.trans hfalse) nofun,
    fun ⟨hfalse, _⟩ ↦ absurd (h.symm.trans hfalse) nofun⟩

theorem share_of_isEqual (h : b.isEqual = true) : b.share = (b.oldLength, 0) := by
  rw [share, kept, deleted, if_pos h, if_pos h]

theorem share_of_change (h : b.isEqual = false) : b.share = (0, b.oldLength) := by
  simp [share, kept, deleted, h]

end Block

/-- Blocks that lead from some numbers of equal and deleted lines to others, and whose changes name
places within the bound. -/
def BlocksNamed (inserts : Nat) : Nat → Nat → List Block → Nat → Nat → Prop :=
  Chain Block.share (Block.NamesWithin inserts)

/-! ## From edits to blocks -/

namespace Pending

variable {p : Pending} {e : Edit} {run : Option Edit}

def lengthOf (run : Option Edit) : Nat := (run.map Edit.length).getD 0

theorem lengthOf_extend : lengthOf (extend run e) = lengthOf run + e.length := by
  cases run with
  | none => exact (Nat.zero_add _).symm
  | some r => rfl

/-- What is pending behind so many equal lines names places within the bound. An equal run is
pending alone, and no change is empty. -/
structure Named (inserts k : Nat) (p : Pending) : Prop where
  alone : p.equal = none ∨ p.delete = none ∧ p.insert = none
  /-- A pending deletion deletes something and names its place within the bound. -/
  delete : ∀ d ∈ p.delete, 0 < d.length ∧ k ≤ d.new ∧ d.new ≤ k + inserts
  /-- A pending insertion inserts something and names no place before the equal lines. -/
  insert : ∀ e ∈ p.insert, 0 < e.length ∧ k ≤ e.old

theorem blocksNamed_equalBlocks (p : Pending) :
    BlocksNamed inserts k d p.equalBlocks (k + lengthOf p.equal) d := by
  obtain ⟨equal, delete, insert⟩ := p
  cases equal with
  | none => exact ⟨rfl, rfl⟩
  | some e => exact chain_singleton (Block.namesWithin_of_isEqual rfl)

theorem Named.changeBlocks (h : p.Named inserts k) :
    BlocksNamed inserts k d p.changeBlocks k (d + lengthOf p.delete) := by
  have hdelete := h.delete
  have hinsert := h.insert
  obtain ⟨equal, delete, insert⟩ := p
  cases delete with
  | none =>
    cases insert with
    | none => exact ⟨rfl, rfl⟩
    | some e =>
      obtain ⟨hpos, hold⟩ := hinsert e rfl
      exact chain_singleton ⟨fun _ ↦ hold, fun ⟨_, hzero⟩ ↦ absurd hzero (Nat.ne_of_gt hpos)⟩
  | some r =>
    obtain ⟨hpos, hnew⟩ := hdelete r rfl
    cases insert with
    | none =>
      exact chain_singleton ⟨fun ⟨_, hzero⟩ ↦ absurd hzero (Nat.ne_of_gt hpos), fun _ ↦ hnew⟩
    | some e =>
      obtain ⟨hpos', -⟩ := hinsert e rfl
      exact chain_singleton ⟨fun ⟨_, hzero⟩ ↦ absurd hzero (Nat.ne_of_gt hpos),
        fun ⟨_, hzero⟩ ↦ absurd hzero (Nat.ne_of_gt hpos')⟩

theorem named_alone (equal : Option Edit) : Named inserts k ⟨equal, none, none⟩ :=
  ⟨Or.inr ⟨rfl, rfl⟩, nofun, nofun⟩

theorem Named.flush (h : p.Named inserts k) :
    Named inserts (k + lengthOf p.equal) ⟨none, p.delete, p.insert⟩ := by
  rcases h.alone with hequal | ⟨hdelete, hinsert⟩
  · rw [hequal]
    exact ⟨Or.inl rfl, h.delete, h.insert⟩
  · rw [hdelete, hinsert]
    exact named_alone none

theorem Named.extendDelete {insert : Option Edit} (h : Named inserts k ⟨none, run, insert⟩)
    (hpos : 0 < e.length) (he : k ≤ e.new ∧ e.new ≤ k + inserts) :
    Named inserts k ⟨none, extend run e, insert⟩ := by
  refine ⟨Or.inl rfl, fun r hr ↦ ?_, h.insert⟩
  cases run with
  | none =>
    obtain rfl := Option.some.inj hr
    exact ⟨hpos, he⟩
  | some first =>
    obtain rfl := Option.some.inj hr
    obtain ⟨hpos', hnew⟩ := h.delete first rfl
    exact ⟨Nat.add_pos_left hpos' _, hnew⟩

theorem Named.extendInsert {delete : Option Edit} (h : Named inserts k ⟨none, delete, run⟩)
    (hpos : 0 < e.length) (he : k ≤ e.old) : Named inserts k ⟨none, delete, extend run e⟩ := by
  refine ⟨Or.inl rfl, h.delete, fun r hr ↦ ?_⟩
  cases run with
  | none =>
    obtain rfl := Option.some.inj hr
    exact ⟨hpos, he⟩
  | some first =>
    obtain rfl := Option.some.inj hr
    obtain ⟨hpos', hold⟩ := h.insert first rfl
    exact ⟨Nat.add_pos_left hpos' _, hold⟩

end Pending

theorem blocksNamed_blocksFrom {deletes : Nat} {p : Pending} {script : List Edit}
    (hp : p.Named inserts k) (hscript : ∀ e ∈ script, 0 < e.length)
    (h : NamesWithin deletes inserts (k + Pending.lengthOf p.equal)
      (d + Pending.lengthOf p.delete) script k' d') :
    BlocksNamed inserts k d (blocksFrom p script) k' d' := by
  induction script generalizing p k d with
  | nil =>
    obtain ⟨rfl, rfl⟩ := h
    exact p.blocksNamed_equalBlocks.append hp.flush.changeBlocks
  | cons e script ih =>
    obtain ⟨hpos, hscript⟩ := List.forall_mem_cons.mp hscript
    obtain ⟨hnames, hrest⟩ := h
    cases he : e.kind with
    | equal =>
      rw [Edit.share_equal he, Nat.add_assoc, ← Pending.lengthOf_extend] at hrest
      rw [blocksFrom, he]
      exact hp.changeBlocks.append (ih (Pending.named_alone _) hscript hrest)
    | delete =>
      rw [Edit.share_delete he, Nat.add_assoc d, ← Pending.lengthOf_extend] at hrest
      rw [blocksFrom, he]
      have hnamed := hp.flush.extendDelete hpos ((Edit.namesWithin_delete he).mp hnames)
      exact p.blocksNamed_equalBlocks.append (ih hnamed hscript hrest)
    | insert =>
      rw [Edit.share_insert he] at hrest
      rw [blocksFrom, he]
      have hnamed := hp.flush.extendInsert hpos ((Edit.namesWithin_insert he).mp hnames).1
      exact p.blocksNamed_equalBlocks.append (ih hnamed hscript hrest)

/-- **The blocks of a settled script name places within the bounds.** -/
theorem blocksNamed_settle [BEq α] [LawfulBEq α] (old new : Array α) :
    ∃ k d n, old.size = k + d ∧ new.size = k + n ∧
      BlocksNamed n 0 0 (blocks (settle old new (rawScript old new))) k d := by
  obtain ⟨k, d, n, hold, hnew, hnames⟩ := namesWithin_settle old new
  have hcovers := (settle_rawScript_anchored old new).covers
  exact ⟨k, d, n, hold, hnew, blocksNamed_blocksFrom (Pending.named_alone none)
    (fun _ he ↦ hcovers.length_pos_of_mem he) hnames⟩

end Redline.Diff
