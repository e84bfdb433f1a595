import Redline.Proofs.Diff.Cut
import Redline.Proofs.Patch.Replay

/-!
# The structure of a patch

Two different texts fall into pieces of one list: lines that no hunk shows and that are in both
texts, then the lines of a hunk, and so on, up to lines behind the last hunk. What a hunk keeps and
removes is of the base text, what it keeps and adds is of the proposed text.

A hunk changes something. Inside it, changes are never more than twice the context radius apart, and
it starts and ends with as many kept lines as there are next to it, up to the radius. Lines between
two hunks are left out, or else they would be one hunk.
-/

namespace Redline.Patch

open Redline.Diff

variable {old new : Array String} {i j i' j' radius limit : Nat}

/-! ## Pieces -/

/-- Lines that no hunk shows, and the hunk behind them. -/
structure Piece where
  /-- The lines before the hunk, down from the hunk before it or from the start. -/
  gap : List String
  hunk : ShownHunk

namespace Piece

/-- The lines of a piece in the base text. -/
def before (p : Piece) : List String := p.gap ++ p.hunk.before

def after (p : Piece) : List String := p.gap ++ p.hunk.after

end Piece

/-- The number of kept lines at the start of some lines of a patch. -/
def leading (ls : List PatchLine) : Nat := (ls.takeWhile fun l ↦ l.kind == .context).length

def trailing (ls : List PatchLine) : Nat := leading ls.reverse

/-- No more kept lines than `limit` stand in a row. -/
def Dense (limit : Nat) (ls : List PatchLine) : Prop :=
  ∀ run, run <:+: ls → (∀ l ∈ run, l.kind = .context) → run.length ≤ limit

/-- A hunk that changes something, its changes close to one another. -/
structure ShownHunk.Tight (limit : Nat) (h : ShownHunk) : Prop where
  body_kind : ∀ l ∈ h.body, l.kind ≠ .header
  /-- Some line is added or removed. -/
  changes : ∃ l ∈ h.body, l.kind = .added ∨ l.kind = .removed
  /-- No more kept lines than `limit` stand between two changes. -/
  dense : Dense limit h.body

/-- Every hunk starts and ends with as many kept lines as there are next to it, up to the radius,
and between two hunks lines are left out. If a hunk comes before all these pieces, then `shown` is
the number of kept lines at its end. -/
def Bordered (radius : Nat) : Option Nat → List Piece → List String → Prop
  | shown, [], last => ∀ s ∈ shown, s = min radius (s + last.length)
  | shown, p :: ps, last =>
    (∀ s ∈ shown, s = min radius (s + p.gap.length) ∧ p.gap ≠ []) ∧
      leading p.hunk.body = min radius (p.gap.length + leading p.hunk.body) ∧
        Bordered radius (some (trailing p.hunk.body)) ps last

/-- How the lines of a patch show two lists of lines: by pieces, and lines behind the last hunk. -/
structure Unified (radius : Nat) (shown : Option Nat) (ls : List PatchLine) (old new : List String)
    (pieces : List Piece) (last : List String) : Prop where
  /-- The lines of the patch are those of the hunks. -/
  lines : ls = pieces.flatMap fun p ↦ p.hunk.lines
  /-- The old list is made of the pieces. -/
  old_eq : old = pieces.flatMap Piece.before ++ last
  new_eq : new = pieces.flatMap Piece.after ++ last
  tight : ∀ p ∈ pieces, p.hunk.Tight (2 * radius)
  /-- Every hunk has its border of kept lines. -/
  bordered : Bordered radius shown pieces last

/-! ## Kept lines in a row -/

variable {l : PatchLine} {ls ms : List PatchLine}

theorem leading_append (h : ∀ l ∈ ls, l.kind = .context) :
    leading (ls ++ ms) = ls.length + leading ms := by
  rw [leading, List.takeWhile_append_of_pos fun l hl ↦ beq_iff_eq.mpr (h l hl), List.length_append]
  rfl

theorem leading_of_change (hne : ls ≠ []) (h : ∀ l ∈ ls, l.kind ≠ .context) :
    leading (ls ++ ms) = 0 := by
  obtain ⟨l, ls, rfl⟩ := List.exists_cons_of_ne_nil hne
  have hl : (l.kind == .context) = false := beq_eq_false_iff_ne.mpr (h l List.mem_cons_self)
  rw [leading, List.cons_append, List.takeWhile_cons, if_neg (by rw [hl]; exact Bool.false_ne_true)]
  rfl

theorem Dense.cons_change (h : Dense limit ls) (hl : l.kind ≠ .context) :
    Dense limit (l :: ls) := by
  intro run hrun hcontext
  rcases List.infix_cons_iff.mp hrun with hfront | hinfix
  · cases run with
    | nil => exact Nat.zero_le _
    | cons m run =>
      obtain ⟨rfl, -⟩ := List.cons_prefix_cons.mp hfront
      exact absurd (hcontext _ List.mem_cons_self) hl
  · exact h run hinfix hcontext

theorem Dense.append_changes (h : Dense limit ms) (hls : ∀ l ∈ ls, l.kind ≠ .context) :
    Dense limit (ls ++ ms) := by
  induction ls with
  | nil => exact h
  | cons l ls ih =>
    obtain ⟨hl, hls⟩ := List.forall_mem_cons.mp hls
    exact (ih hls).cons_change hl

theorem Dense.append_kept (h : Dense limit ms) (hlength : ls.length ≤ limit)
    (hhead : ∀ m ∈ ms.head?, m.kind ≠ .context) : Dense limit (ls ++ ms) := by
  induction ls with
  | nil => exact h
  | cons l ls ih =>
    intro run hrun hcontext
    rcases List.infix_cons_iff.mp hrun with hfront | hinfix
    · refine le_trans (Nat.not_lt.mp fun hlong ↦ ?_) hlength
      cases ms with
      | nil =>
        have hle : run.length ≤ (l :: ls ++ []).length := hfront.length_le
        rw [List.append_nil] at hle
        exact Nat.not_lt.mpr hle hlong
      | cons m ms =>
        have hshort : l :: ls ++ [m] <+: l :: (ls ++ m :: ms) :=
          ⟨ms, by rw [List.cons_append, List.cons_append, List.append_assoc]; rfl⟩
        have hm : l :: ls ++ [m] <+: run := by
          refine List.prefix_of_prefix_length_le hshort hfront ?_
          rw [List.length_append]
          exact hlong
        exact hhead m rfl (hcontext m (hm.subset (List.mem_append_right _ List.mem_cons_self)))
    · exact ih (Nat.le_of_succ_le hlength) run hinfix hcontext

/-! ## The lines of blocks -/

/-- Lines that show a block as what it is: kept lines, or changed ones. -/
structure ShowsKind (b : Block) (ls : List PatchLine) : Prop where
  /-- An equal block shows its lines as kept. -/
  kept : b.isEqual = true → ls.length = b.oldLength ∧ ∀ l ∈ ls, l.kind = .context
  /-- A change shows at least one line as changed and none as kept. -/
  change : b.isEqual = false → ls ≠ [] ∧ ∀ l ∈ ls, l.kind ≠ .context

theorem ShowsKind.reverse {b : Block} (h : ShowsKind b ls) : ShowsKind b ls.reverse := by
  refine ⟨fun hequal ↦ ?_, fun hchange ↦ ?_⟩
  · obtain ⟨hlength, hkind⟩ := h.kept hequal
    exact ⟨List.length_reverse.trans hlength, fun l hl ↦ hkind l (List.mem_reverse.mp hl)⟩
  · obtain ⟨hne, hkind⟩ := h.change hchange
    exact ⟨List.reverse_ne_nil_iff.mpr hne, fun l hl ↦ hkind l (List.mem_reverse.mp hl)⟩

section

variable {b : Block} {bs : List Block} {f : Block → List PatchLine}

theorem head_flatMap_of_change (hshows : ∀ b ∈ bs, ShowsKind b (f b)) (hhead : HeadIs false bs) :
    ∀ l ∈ (bs.flatMap f).head?, l.kind ≠ .context := by
  cases bs with
  | nil => exact nofun
  | cons b bs =>
    obtain ⟨hne, hkind⟩ := (hshows b List.mem_cons_self).change (hhead b rfl)
    intro l hl
    obtain ⟨m, ms, hms⟩ := List.exists_cons_of_ne_nil hne
    rw [List.flatMap_cons, hms, List.cons_append, List.head?_cons] at hl
    obtain rfl := Option.some.inj hl
    exact hkind m (hms ▸ List.mem_cons_self)

theorem leading_flatMap (h : Alternating bs) (hshows : ∀ b ∈ bs, ShowsKind b (f b)) :
    leading (bs.flatMap f) = lead bs := by
  cases bs with
  | nil => rfl
  | cons b bs =>
    obtain ⟨hshow, hshows⟩ := List.forall_mem_cons.mp hshows
    rw [List.flatMap_cons]
    cases hb : b.isEqual with
    | false =>
      obtain ⟨hne, hkind⟩ := hshow.change hb
      rw [leading_of_change hne hkind]
      exact (if_neg (by rw [hb]; exact Bool.false_ne_true)).symm
    | true =>
      obtain ⟨hlength, hkind⟩ := hshow.kept hb
      have hhead : HeadIs false bs := by
        have := h.headIs_tail
        rwa [hb] at this
      have hrest : leading (bs.flatMap f) = 0 := by
        have hchange := head_flatMap_of_change hshows hhead
        cases hlines : bs.flatMap f with
        | nil => rfl
        | cons l ls =>
          rw [hlines] at hchange
          have hl : ∀ m ∈ [l], m.kind ≠ .context := List.forall_mem_singleton.mpr (hchange l rfl)
          exact leading_of_change (List.cons_ne_nil _ _) hl
      rw [leading_append hkind, hlength, hrest]
      exact (if_pos hb).symm

theorem trailing_flatMap (h : Alternating bs) (hshows : ∀ b ∈ bs, ShowsKind b (f b)) :
    trailing (bs.flatMap f) = trail bs := by
  have hlead := leading_flatMap h.reverse (f := List.reverse ∘ f) fun b hb ↦
    (hshows b (List.mem_reverse.mp hb)).reverse
  rw [trailing, List.reverse_flatMap, hlead, lead, List.head?_reverse]
  rfl

/-- Kept lines stand in a row only within an equal block. -/
theorem dense_flatMap (h : Alternating bs) (hshows : ∀ b ∈ bs, ShowsKind b (f b))
    (hshort : ∀ b ∈ bs, b.kept ≤ limit) : Dense limit (bs.flatMap f) := by
  induction bs with
  | nil =>
    intro run hrun _
    rw [List.infix_nil.mp hrun]
    exact Nat.zero_le _
  | cons b bs ih =>
    obtain ⟨hshow, hshows⟩ := List.forall_mem_cons.mp hshows
    obtain ⟨hkept, hshort⟩ := List.forall_mem_cons.mp hshort
    have hdense := ih h.tail hshows hshort
    rw [List.flatMap_cons]
    cases hb : b.isEqual with
    | false => exact hdense.append_changes (hshow.change hb).2
    | true =>
      have hhead : HeadIs false bs := by
        have := h.headIs_tail
        rwa [hb] at this
      refine hdense.append_kept ?_ (head_flatMap_of_change hshows hhead)
      rw [(hshow.kept hb).1]
      exact (if_pos hb).symm.trans_le hkept

end

theorem showsKind_blockLines {b : Block} (h : b.Fits old new i j)
    (hpos : b.isEqual = false → 0 < b.oldLength + b.newLength) :
    ShowsKind b (blockLines old new b) := by
  refine ⟨fun hequal ↦ ?_, fun hchange ↦ ?_⟩
  · rw [Block.Fits, if_pos hequal] at h
    obtain ⟨hold, -, -, hrun⟩ := h
    rw [blockLines, if_pos hequal]
    exact ⟨length_linesAs (hold ▸ hrun.old_le), fun l hl ↦ kind_of_mem_linesAs hl⟩
  · have hfalse : ¬b.isEqual = true := by rw [hchange]; exact Bool.false_ne_true
    rw [Block.Fits, if_neg hfalse] at h
    obtain ⟨hold, hnew, -, hplace, hplace'⟩ := h
    rw [blockLines, if_neg hfalse, linesAs_congr hplace, linesAs_congr hplace']
    refine ⟨fun hnil ↦ ?_, fun l hl ↦ ?_⟩
    · have hsum := congrArg List.length hnil
      rw [List.length_append, length_linesAs hold, length_linesAs hnew, List.length_nil] at hsum
      exact absurd (hpos hchange) (by omega)
    · rcases List.mem_append.mp hl with hl | hl
      · rw [kind_of_mem_linesAs hl]
        decide
      · rw [kind_of_mem_linesAs hl]
        decide

/-! ## From groups to pieces -/

/-- A proper group shows as a tight hunk. -/
theorem tight_of_proper {h : Hunk} (hproper : Proper radius h.blocks)
    (hshows : ∀ b ∈ h.blocks, ShowsKind b (blockLines old new b)) :
    (h.toShown old new).Tight (2 * radius) := by
  refine ⟨fun l hl ↦ kind_of_mem_body hl, ?_, ?_⟩
  · obtain ⟨b, hb, hchange⟩ := hproper.change
    obtain ⟨hne, hkind⟩ := (hshows b hb).change hchange
    obtain ⟨l, hl⟩ := List.exists_mem_of_ne_nil _ hne
    refine ⟨l, List.mem_flatMap.mpr ⟨b, hb, hl⟩, ?_⟩
    have hcontext := hkind l hl
    have hheader := kind_of_mem_blockLines hl
    cases hl' : l.kind with
    | added => exact Or.inl rfl
    | removed => exact Or.inr rfl
    | context => exact absurd hl' hcontext
    | header => exact absurd hl' hheader
  · refine dense_flatMap hproper.alternating hshows fun b hb ↦ ?_
    rw [Nat.mul_comm]
    exact hproper.short b hb

/-- **Groups that are cut to a radius show as pieces.** -/
theorem exists_pieces {shown : Option Nat} {inserts k d : Nat} {gs : List (List Block)}
    (h : GroupsCut radius inserts old new shown i j k d gs) :
    ∃ pieces last, Unified radius shown (gs.flatMap (hunkLines old new))
      (linesFrom old i old.size) (linesFrom new j new.size) pieces last := by
  induction gs generalizing shown i j k d with
  | nil =>
    obtain ⟨skip, hrun, hold, hnew, -, hshown⟩ := h
    refine ⟨[], linesFrom old i old.size, rfl, rfl, ?_, nofun, ?_⟩
    · rw [hold, hnew]
      exact (linesFrom_eq_of_sameRun hrun).symm
    · intro s hs
      rw [length_linesFrom (Nat.le_refl _), hold, Nat.add_sub_cancel_left]
      exact hshown s hs
  | cons group gs ih =>
    obtain ⟨skip, a, b, _, _, hrun, hshown, hlead, hproper, -, hcovers, -, hrest⟩ := h
    obtain ⟨pieces, last, hlines, hold, hnew, htight, hbordered⟩ := ih hrest
    have hne := hproper.ne_nil
    obtain ⟨hle, hle', hbounds⟩ := hcovers.bounds
    obtain ⟨ha, hb⟩ := hbounds hne
    have hshows : ∀ b ∈ group, ShowsKind b (blockLines old new b) := by
      intro b hb
      obtain ⟨_, _, hfits⟩ := Chain.exists_fits_of_mem hcovers hb
      exact showsKind_blockLines hfits (hproper.alternating.change_pos b hb)
    obtain ⟨hbase, hproposed⟩ := shown_blocks hcovers
    have hgap : (linesFrom old i (i + skip)).length = skip := length_linesFrom_add hrun.old_le
    let hunk := (Hunk.mk (i + skip) (j + skip) group).toShown old new
    have hbody : hunk.body = group.flatMap (blockLines old new) := rfl
    refine ⟨⟨linesFrom old i (i + skip), hunk⟩ :: pieces, last, ?_, ?_, ?_, ?_, ?_, ?_, ?_⟩
    · rw [List.flatMap_cons, List.flatMap_cons, ← hlines]
      exact congrArg (· ++ _) (Hunk.hunkLines_eq_lines (h := ⟨i + skip, j + skip, group⟩) hne)
    · rw [List.flatMap_cons, List.append_assoc, ← hold, Piece.before, ShownHunk.before, hbody,
        hbase, List.append_assoc, linesFrom_append hle ha,
        linesFrom_append (Nat.le_add_right _ _) hrun.old_le]
    · rw [List.flatMap_cons, List.append_assoc, ← hnew, Piece.after, ShownHunk.after, hbody,
        hproposed, linesFrom_eq_of_sameRun hrun, List.append_assoc, linesFrom_append hle' hb,
        linesFrom_append (Nat.le_add_right _ _) hrun.new_le]
    · exact List.forall_mem_cons.mpr ⟨tight_of_proper hproper hshows, htight⟩
    · intro s hs
      obtain ⟨hs, hpos⟩ := hshown s hs
      rw [hgap]
      refine ⟨hs, List.ne_nil_of_length_pos ?_⟩
      rwa [hgap]
    · rw [hgap, hbody, leading_flatMap hproper.alternating hshows]
      exact hlead
    · rw [hbody, trailing_flatMap hproper.alternating hshows]
      exact hbordered

theorem Unified.hunkCount_eq {patch : Patch} {shown : Option Nat} {before after last : List String}
    {pieces : List Piece} (h : Unified radius shown patch.lines before after pieces last) :
    patch.hunkCount = pieces.length := by
  have hcount : ∀ p ∈ pieces, p.hunk.lines.countP (fun l ↦ l.kind == .header) = 1 := by
    intro p hp
    have hbody : p.hunk.body.countP (fun l ↦ l.kind == .header) = 0 := by
      rw [List.countP_eq_zero]
      exact fun l hl ↦ beq_eq_false_iff_ne.mpr ((h.tight p hp).body_kind l hl) ▸ Bool.false_ne_true
    rw [ShownHunk.lines, List.countP_cons, hbody]
    rfl
  rw [hunkCount, count, h.lines]
  clear h
  induction pieces with
  | nil => rfl
  | cons p ps ih =>
    obtain ⟨hp, hps⟩ := List.forall_mem_cons.mp hcount
    rw [List.flatMap_cons, List.countP_append, hp, ih hps, List.length_cons, Nat.add_comm]

/-- **The structure of a patch.** The patch between two different texts has at least one hunk. Both
texts fall into lines that no hunk shows, which are in both, and the lines of the hunks, each of
which changes something, keeps no more than twice the context radius lines in a row, and starts and
ends with the lines next to its changes, up to the radius. Between two hunks lines are left out. -/
theorem exists_unified (base proposed : String) (hne : base ≠ proposed) :
    ∃ pieces last, pieces ≠ [] ∧ (between base proposed).hunkCount = pieces.length ∧
      Unified contextRadius none (between base proposed).lines (Text.linesOf base).toList
        (Text.linesOf proposed).toList pieces last := by
  obtain ⟨_, hcut⟩ :=
    groupsCut_groupsBetween contextRadius (Text.linesOf base) (Text.linesOf proposed)
  obtain ⟨pieces, last, hunified⟩ := exists_pieces hcut
  have hlines : (between base proposed).lines =
      (groupsBetween contextRadius (Text.linesOf base) (Text.linesOf proposed)).flatMap
        (hunkLines (Text.linesOf base) (Text.linesOf proposed)) := by
    rw [between, if_neg hne]
  rw [linesFrom, linesFrom, Array.extract_size, Array.extract_size, ← hlines] at hunified
  refine ⟨pieces, last, ?_, hunified.hunkCount_eq, hunified⟩
  rintro rfl
  refine hne (isEmpty_between.mp ?_)
  rw [isEmpty, hunified.lines]
  rfl

/-- Seven lines between two changes are enough for two hunks. -/
theorem exists_unified_apart :
    ("x\na\nb\nc\nd\ne\nf\ng\ny\n" ≠ "a\nb\nc\nd\ne\nf\ng\nz\n") ∧
      ∃ pieces last, pieces.length = 2 ∧ Unified contextRadius none
        (between "x\na\nb\nc\nd\ne\nf\ng\ny\n" "a\nb\nc\nd\ne\nf\ng\nz\n").lines
        ["x\n", "a\n", "b\n", "c\n", "d\n", "e\n", "f\n", "g\n", "y\n"]
        ["a\n", "b\n", "c\n", "d\n", "e\n", "f\n", "g\n", "z\n"] pieces last := by
  have hne : "x\na\nb\nc\nd\ne\nf\ng\ny\n" ≠ "a\nb\nc\nd\ne\nf\ng\nz\n" := by decide
  have hhunks : hunksBetween "x\na\nb\nc\nd\ne\nf\ng\ny\n" "a\nb\nc\nd\ne\nf\ng\nz\n" =
      [⟨0, 0, [⟨false, 0, 1, 0, 0⟩, .equal 1 0 3]⟩,
        ⟨5, 4, [.equal 5 4 3, ⟨false, 8, 1, 7, 1⟩]⟩] := by cbv
  obtain ⟨pieces, last, -, hcount, hunified⟩ := exists_unified _ _ hne
  refine ⟨hne, pieces, last, ?_, hunified⟩
  rw [← hcount, hunkCount, count, lines_between, hhunks]
  decide +kernel

end Redline.Patch
