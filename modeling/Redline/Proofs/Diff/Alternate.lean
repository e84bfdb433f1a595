import Mathlib.Data.List.Chain
import Redline.Proofs.Diff.Group

/-!
# Equal blocks and changes alternate

Blocks are made of everything that is pending between an equal run and a change, or between a change
and an equal run. So no two neighbours are both equal or both changes, and no change is empty.
-/

namespace Redline.Diff

variable {α : Type} {old new : Array α} {i j i' j' : Nat}

/-! ## Alternating blocks -/

/-- Blocks of which no two neighbours are of one kind, and no change is empty. -/
structure Alternating (bs : List Block) : Prop where
  kinds : (bs.map Block.isEqual).IsChain (· ≠ ·)
  change_pos : ∀ b ∈ bs, b.isEqual = false → 0 < b.oldLength + b.newLength

def HeadIs (isEqual : Bool) (bs : List Block) : Prop := ∀ b ∈ bs.head?, b.isEqual = isEqual

namespace Alternating

variable {b : Block} {bs cs : List Block}

theorem nil : Alternating [] := ⟨List.isChain_nil, nofun⟩

theorem cons (h : Alternating bs) (hhead : HeadIs (!b.isEqual) bs)
    (hpos : b.isEqual = false → 0 < b.oldLength + b.newLength) : Alternating (b :: bs) := by
  refine ⟨?_, List.forall_mem_cons.mpr ⟨hpos, h.change_pos⟩⟩
  rw [List.map_cons]
  refine h.kinds.cons fun kind hkind ↦ ?_
  rw [List.head?_map] at hkind
  obtain ⟨c, hc, rfl⟩ := Option.map_eq_some_iff.mp hkind
  rw [hhead c hc]
  exact Bool.not_eq_not.mpr rfl

theorem left (h : Alternating (bs ++ cs)) : Alternating bs := by
  obtain ⟨hkinds, hpos⟩ := h
  rw [List.map_append] at hkinds
  exact ⟨hkinds.left_of_append, fun b hb ↦ hpos b (List.mem_append_left _ hb)⟩

theorem right (h : Alternating (bs ++ cs)) : Alternating cs := by
  obtain ⟨hkinds, hpos⟩ := h
  rw [List.map_append] at hkinds
  exact ⟨hkinds.right_of_append, fun b hb ↦ hpos b (List.mem_append_right _ hb)⟩

theorem headIs_tail (h : Alternating (b :: bs)) : HeadIs (!b.isEqual) bs := by
  intro c hc
  have hne : b.isEqual ≠ c.isEqual := by
    refine h.kinds.rel_head? ?_
    rw [List.head?_map, Option.mem_def.mp hc]
    rfl
  rw [Bool.eq_not]
  exact hne.symm

theorem tail (h : Alternating (b :: bs)) : Alternating bs :=
  (show Alternating ([b] ++ bs) from h).right

theorem reverse (h : Alternating bs) : Alternating bs.reverse := by
  refine ⟨?_, fun b hb ↦ h.change_pos b (List.mem_reverse.mp hb)⟩
  rw [List.map_reverse, List.isChain_reverse]
  exact h.kinds.imp fun _ _ ↦ Ne.symm

theorem congr (h : Alternating bs) (hkinds : cs.map Block.isEqual = bs.map Block.isEqual)
    (hmem : ∀ c ∈ cs, c.isEqual = false → c ∈ bs) : Alternating cs :=
  ⟨hkinds ▸ h.kinds, fun c hc hchange ↦ h.change_pos c (hmem c hc hchange) hchange⟩

theorem exists_change (h : Alternating bs) (hlength : 2 ≤ bs.length) :
    ∃ b ∈ bs, b.isEqual = false := by
  obtain ⟨b, c, rest, rfl⟩ : ∃ b c rest, bs = b :: c :: rest := by
    match bs with
    | [] => exact absurd hlength (Nat.not_succ_le_zero _)
    | [b] => exact absurd hlength (Nat.not_succ_le_self _)
    | b :: c :: rest => exact ⟨b, c, rest, rfl⟩
  have hc : c.isEqual = !b.isEqual := h.headIs_tail c rfl
  cases hb : b.isEqual with
  | false => exact ⟨b, List.mem_cons_self, hb⟩
  | true =>
    rw [hb] at hc
    exact ⟨c, List.mem_cons_of_mem _ List.mem_cons_self, hc⟩

end Alternating

/-! ## From edits to blocks -/

namespace Pending

variable {p : Pending} {bs : List Block}

theorem Leads.alternating_changeBlocks (h : p.Leads old new i j i' j') (hbs : Alternating bs)
    (hhead : HeadIs true bs) : Alternating (p.changeBlocks ++ bs) ∧
      (p.delete.isSome ∨ p.insert.isSome → HeadIs false (p.changeBlocks ++ bs)) := by
  have hdelete := h.delete_pos
  have hinsert := h.insert_pos
  obtain ⟨equal, delete, insert⟩ := p
  cases delete with
  | none =>
    cases insert with
    | none => exact ⟨hbs, fun hsome ↦ absurd hsome (by simp)⟩
    | some e =>
      refine ⟨hbs.cons hhead fun _ ↦ ?_, fun _ b hb ↦ Option.some.inj hb ▸ rfl⟩
      exact Nat.add_pos_right _ (hinsert e rfl)
  | some d =>
    have hpos : 0 < d.length := hdelete d rfl
    cases insert with
    | none =>
      refine ⟨hbs.cons hhead fun _ ↦ ?_, fun _ b hb ↦ Option.some.inj hb ▸ rfl⟩
      exact Nat.add_pos_left hpos _
    | some e =>
      refine ⟨hbs.cons hhead fun _ ↦ ?_, fun _ b hb ↦ Option.some.inj hb ▸ rfl⟩
      exact Nat.add_pos_left hpos _

theorem Leads.alternating_equalBlocks (h : p.Leads old new i j i' j') (hbs : Alternating bs)
    (hhead : HeadIs false bs) : Alternating (p.equalBlocks ++ bs) ∧
      (p.equal.isSome → HeadIs true (p.equalBlocks ++ bs)) ∧
        (p.delete.isSome ∨ p.insert.isSome → HeadIs false (p.equalBlocks ++ bs)) := by
  have halone := h.alone
  obtain ⟨equal, delete, insert⟩ := p
  cases equal with
  | none => exact ⟨hbs, fun hsome ↦ absurd hsome Bool.false_ne_true, fun _ ↦ hhead⟩
  | some e =>
    refine ⟨hbs.cons hhead fun hequal ↦ absurd hequal.symm Bool.false_ne_true,
      fun _ b hb ↦ Option.some.inj hb ▸ rfl, fun hsome ↦ ?_⟩
    obtain ⟨rfl, rfl⟩ : delete = none ∧ insert = none := halone.resolve_left nofun
    exact absurd hsome (by simp)

end Pending

/-- What is pending opens the blocks, and blocks alternate. -/
theorem alternating_blocksFrom {script : List Edit} {p : Pending} {i'' j'' : Nat}
    (h : p.Leads old new i j i' j') (hscript : Covers old new i' j' script i'' j'') :
    Alternating (blocksFrom p script) ∧
      (p.equal.isSome → HeadIs true (blocksFrom p script)) ∧
        (p.delete.isSome ∨ p.insert.isSome → HeadIs false (blocksFrom p script)) := by
  induction script generalizing p i j i' j' with
  | nil =>
    obtain ⟨hchanges, hhead⟩ := h.alternating_changeBlocks Alternating.nil nofun
    obtain ⟨hequals, hhead', -⟩ := h.alternating_equalBlocks Alternating.nil nofun
    rw [List.append_nil] at hchanges hhead hequals hhead'
    rw [blocksFrom]
    rcases h.alone with hequal | ⟨hdelete, hinsert⟩
    · rw [Pending.equalBlocks, hequal]
      exact ⟨hchanges, fun hsome ↦ absurd hsome Bool.false_ne_true, hhead⟩
    · rw [Pending.changeBlocks, hdelete, hinsert, List.append_nil]
      exact ⟨hequals, hhead', fun hsome ↦ absurd hsome (by simp)⟩
  | cons e script ih =>
    obtain ⟨hfits, hrest⟩ := hscript
    cases he : e.kind with
    | equal =>
      rw [Edit.span_equal he] at hrest
      obtain ⟨a, b, -, hlead⟩ := h.extendEqual he hfits
      obtain ⟨hblocks, hequal, -⟩ := ih hlead hrest
      have hhead := hequal (by cases p.equal <;> rfl)
      obtain ⟨hblocks', hchange⟩ := h.alternating_changeBlocks hblocks hhead
      rw [blocksFrom, he]
      refine ⟨hblocks', fun hsome ↦ ?_, hchange⟩
      -- A pending equal run is alone, so no block comes before it.
      obtain ⟨hdelete, hinsert⟩ := h.alone.resolve_left (Option.isSome_iff_ne_none.mp hsome)
      rw [Pending.changeBlocks, hdelete, hinsert]
      exact hhead
    | delete =>
      rw [Edit.span_delete he] at hrest
      obtain ⟨a, b, -, hlead⟩ := h.extendDelete he hfits
      obtain ⟨hblocks, -, hchange⟩ := ih hlead hrest
      rw [blocksFrom, he]
      exact h.alternating_equalBlocks hblocks (hchange (Or.inl (by cases p.delete <;> rfl)))
    | insert =>
      rw [Edit.span_insert he] at hrest
      obtain ⟨a, b, -, hlead⟩ := h.extendInsert he hfits
      obtain ⟨hblocks, -, hchange⟩ := ih hlead hrest
      rw [blocksFrom, he]
      exact h.alternating_equalBlocks hblocks (hchange (Or.inr (by cases p.insert <;> rfl)))

/-- **Equal blocks and changes alternate** in the blocks of a covering script. -/
theorem alternating_blocks {script : List Edit} (h : Covers old new 0 0 script i' j') :
    Alternating (blocks script) :=
  (alternating_blocksFrom Pending.leads_start h).1

end Redline.Diff
