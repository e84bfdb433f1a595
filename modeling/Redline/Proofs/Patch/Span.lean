import Redline.Proofs.Diff.Order
import Redline.Proofs.Patch.Hunk

/-!
# When a hunk runs backwards

The lengths in a header are counted from the place that the first block of the hunk names to the end
of its last block. The border of a hunk may name a stale place, and if that lies on the wrong side
of the other end, then the length is counted backwards and wraps around.

The places that are named are bounded by the numbers of kept, removed and added lines. So a hunk
goes forward unless the hunks before it remove, or those before or after it add, more lines than it
keeps; and the hunk of a patch that has no other goes forward.
-/

namespace Redline.Patch

open Redline.Diff

variable {old new : Array String} {i j k d n inserts radius : Nat}

/-! ## Counting lines -/

/-- The number of lines of a kind that a hunk shows. -/
def Hunk.count (old new : Array String) (kind : LineKind) (h : Hunk) : Nat :=
  (h.body old new).countP fun l ↦ l.kind == kind

def total (old new : Array String) (kind : LineKind) (hs : List Hunk) : Nat :=
  (hs.map (Hunk.count old new kind)).sum

theorem total_cons {kind : LineKind} {h : Hunk} {hs : List Hunk} :
    total old new kind (h :: hs) = h.count old new kind + total old new kind hs := by
  rw [total, List.map_cons, List.sum_cons]
  rfl

theorem countP_linesAs {kind kind' : LineKind} {source : Array String} (h : i + n ≤ source.size) :
    (linesAs kind source i n).countP (fun l ↦ l.kind == kind') = if kind = kind' then n else 0 := by
  by_cases hkind : kind = kind'
  · rw [if_pos hkind]
    refine (List.countP_eq_length.mpr fun l hl ↦ ?_).trans (length_linesAs h)
    rw [kind_of_mem_linesAs hl]
    exact beq_iff_eq.mpr hkind
  · rw [if_neg hkind, List.countP_eq_zero]
    intro l hl
    rw [kind_of_mem_linesAs hl]
    exact fun heq ↦ hkind (beq_iff_eq.mp heq)

theorem count_blockLines {b : Block} (h : b.Fits old new i j) :
    (blockLines old new b).countP (fun l ↦ l.kind == .context) = b.kept ∧
      (blockLines old new b).countP (fun l ↦ l.kind == .removed) = b.deleted ∧
        b.kept + (blockLines old new b).countP (fun l ↦ l.kind == .added) = b.newLength := by
  cases hb : b.isEqual with
  | true =>
    rw [Block.Fits, if_pos hb] at h
    obtain ⟨hold, -, hlength, hrun⟩ := h
    have hle : b.old + b.oldLength ≤ old.size := hold ▸ hrun.old_le
    rw [blockLines, if_pos hb, countP_linesAs hle, countP_linesAs hle, countP_linesAs hle,
      Block.kept, Block.deleted, if_pos hb, if_pos hb, hlength]
    exact ⟨rfl, rfl, rfl⟩
  | false =>
    have hfalse : ¬b.isEqual = true := by rw [hb]; exact Bool.false_ne_true
    rw [Block.Fits, if_neg hfalse] at h
    obtain ⟨hold, hnew, -, hplace, hplace'⟩ := h
    rw [blockLines, if_neg hfalse, linesAs_congr hplace, linesAs_congr hplace']
    simp only [List.countP_append, countP_linesAs hold, countP_linesAs hnew, Block.kept,
      Block.deleted, if_neg hfalse]
    exact ⟨rfl, rfl, (Nat.zero_add _).trans (Nat.zero_add _)⟩

theorem count_blocks {bs : List Block} {i' j' : Nat} (h : BlocksCover old new i j bs i' j') :
    (bs.flatMap (blockLines old new)).countP (fun l ↦ l.kind == .context) =
        (bs.map Block.kept).sum ∧
      (bs.flatMap (blockLines old new)).countP (fun l ↦ l.kind == .removed) =
        (bs.map Block.deleted).sum ∧
      (bs.map Block.kept).sum +
        (bs.flatMap (blockLines old new)).countP (fun l ↦ l.kind == .added) = newLines bs := by
  induction bs generalizing i j with
  | nil => exact ⟨rfl, rfl, rfl⟩
  | cons b bs ih =>
    obtain ⟨hfits, hrest⟩ := h
    obtain ⟨hkept, hdeleted, hadded⟩ := count_blockLines hfits
    obtain ⟨hkept', hdeleted', hadded'⟩ := ih hrest
    rw [List.flatMap_cons, List.countP_append, List.countP_append, List.countP_append,
      List.map_cons, List.map_cons, List.sum_cons, List.sum_cons, newLines]
    omega

theorem oldLines_eq (bs : List Block) :
    oldLines bs = (bs.map Block.kept).sum + (bs.map Block.deleted).sum := by
  induction bs with
  | nil => rfl
  | cons b bs ih =>
    have hb : b.oldLength = b.kept + b.deleted := by
      cases hb : b.isEqual <;> simp [Block.kept, Block.deleted, hb]
    rw [oldLines, List.map_cons, List.map_cons, List.sum_cons, List.sum_cons, ih, hb]
    omega

/-! ## What the borders of a hunk name -/

/-- A hunk behind so many kept, removed and added lines, whose changes name places within the bound.
-/
structure Hunk.Behind (old new : Array String) (inserts removed added : Nat) (h : Hunk) : Prop where
  /-- The kept lines before the hunk give its places, and bound those that its changes name. -/
  exists_kept : ∃ k d d', h.old = k + removed ∧ h.new = k + added ∧
    BlocksNamed inserts k d h.blocks (k + h.count old new .context) d'

/-- **The places that hunks name are bounded** by the lines that are kept before them, and the bound
is the number of all added lines. -/
theorem behind_of_groupsCut {gs : List (List Block)} {shown : Option Nat}
    (h : GroupsCut radius inserts old new shown i j k d gs) (hi : i = k + d) (hj : j = k + n) :
    inserts = n + total old new .added (place i j gs) ∧
      ∀ before hunk after, place i j gs = before ++ hunk :: after →
        hunk.Behind old new inserts (d + total old new .removed before)
          (n + total old new .added before) := by
  induction gs generalizing shown i j k d n with
  | nil =>
    obtain ⟨skip, -, -, hnew, hcount, -⟩ := h
    refine ⟨?_, fun before hunk after hplace ↦ absurd hplace.symm (by simp [place])⟩
    rw [place, total, List.map_nil, List.sum_nil]
    omega
  | cons group gs ih =>
    obtain ⟨skip, a, b, k', d', -, -, -, hproper, hstarts, hcovers, hnamed, hrest⟩ := h
    obtain ⟨rfl, rfl⟩ := end_eq_of_blocksCover hcovers
    obtain ⟨rfl, rfl⟩ := hnamed.end_eq
    obtain ⟨hkept, hremoved, hadded⟩ := count_blocks hcovers
    have hlines := oldLines_eq group
    rw [place_cons hproper.ne_nil hstarts]
    set hunk : Hunk := ⟨i + skip, j + skip, group⟩ with hhunk
    have hcontext : hunk.count old new .context = (group.map Block.kept).sum := hkept
    have hdeleted : hunk.count old new .removed = (group.map Block.deleted).sum := hremoved
    have hinserted : (group.map Block.kept).sum + hunk.count old new .added = newLines group :=
      hadded
    have hblocks : BlocksNamed inserts (k + skip) d group
        (k + skip + (group.map Block.kept).sum) (d + (group.map Block.deleted).sum) := hnamed
    have hrest' : GroupsCut radius inserts old new (some (trail group))
        (i + skip + oldLines group) (j + skip + newLines group)
        (k + skip + (group.map Block.kept).sum) (d + (group.map Block.deleted).sum) gs := hrest
    obtain ⟨htotal, hbehind⟩ := ih (n := n + hunk.count old new .added) hrest' (by omega) (by omega)
    refine ⟨by rw [total_cons]; omega, fun before hunk' after hplace ↦ ?_⟩
    cases before with
    | nil =>
      obtain ⟨rfl, -⟩ := List.cons.inj hplace
      refine ⟨k + skip, d, d + (group.map Block.deleted).sum, ?_, ?_, ?_⟩
      · rw [total, List.map_nil, List.sum_nil]
        change i + skip = k + skip + (d + 0)
        omega
      · rw [total, List.map_nil, List.sum_nil]
        change j + skip = k + skip + (n + 0)
        omega
      · rw [hcontext]
        exact hblocks
    | cons first before =>
      obtain ⟨rfl, hrest⟩ := List.cons.inj hplace
      have hnext := hbehind before hunk' after hrest
      rw [total_cons, total_cons, hdeleted, ← Nat.add_assoc, ← Nat.add_assoc]
      exact hnext

namespace Hunk

variable {h : Hunk} {removed added : Nat} {first last : Block}

theorem Behind.names (hbehind : h.Behind old new inserts removed added)
    (hfirst : h.blocks.head? = some first) (hlast : h.blocks.getLast? = some last) :
    ∃ k, h.old = k + removed ∧ h.new = k + added ∧
      (first.IsDeletion → first.new ≤ k + inserts) ∧
      (last.IsInsertion → k + h.count old new .context ≤ last.old) ∧
      (last.IsDeletion → k + h.count old new .context ≤ last.new) := by
  obtain ⟨k, d, d', hold, hnew, hnamed⟩ := hbehind
  obtain ⟨rest, hblocks⟩ := List.head?_eq_some_iff.mp hfirst
  obtain ⟨front, hblocks'⟩ := List.getLast?_eq_some_iff.mp hlast
  have hnames := hnamed
  rw [hblocks] at hnames
  rw [hblocks'] at hnamed
  obtain ⟨a, e, -, hnamesLast, hend, -⟩ := chain_append.mp hnamed
  have hkept : last.isEqual = false → a = k + h.count old new .context := by
    intro hchange
    rw [hend, Block.share_of_change hchange]
    rfl
  refine ⟨k, hold, hnew, fun hdeletion ↦ (hnames.1.delete_new hdeletion).2,
    fun hinsertion ↦ ?_, fun hdeletion ↦ ?_⟩
  · exact hkept hinsertion.1 ▸ hnamesLast.insert_old hinsertion
  · exact hkept hdeletion.1 ▸ (hnamesLast.delete_new hdeletion).1

/-! ## Going forward -/

/-- The empty runs at the border of a hunk do not lie beyond its other end. -/
structure Ordered (h : Hunk) : Prop where
  /-- A hunk that ends with a mere insertion does not name an old place before its start there. -/
  last_old : ∀ b ∈ h.blocks.getLast?, b.IsInsertion → h.old ≤ b.old
  /-- A hunk that ends with a mere deletion does not name a new place before its start there, unless
  it starts with one as well. -/
  last_new : ∀ a ∈ h.blocks.head?, ∀ b ∈ h.blocks.getLast?, ¬a.IsDeletion → b.IsDeletion →
    h.new ≤ b.new
  /-- A hunk that starts with a mere deletion does not name a new place behind its end there, unless
  it ends with one as well. -/
  first_new : ∀ a ∈ h.blocks.head?, ∀ b ∈ h.blocks.getLast?, a.IsDeletion → ¬b.IsDeletion →
    a.new ≤ h.newEnd

end Hunk

/-- The way from the start of the first block to the end of the last one goes forward in both
sequences, so that its lengths can be counted. -/
structure Forward (first last : Block) : Prop where
  old_le : first.old ≤ last.old + last.oldLength
  new_le : first.new ≤ last.new + last.newLength

namespace Hunk

variable {h : Hunk} {removed added : Nat} {first last : Block}

/-- **A hunk goes forward if and only if the empty runs at its border are in order.** -/
theorem Stands.forward_iff (hstands : h.Stands old new)
    (hsorted : (h.blocks.flatMap Block.deletedPlace).Pairwise (· ≤ ·))
    (hfirst : h.blocks.head? = some first) (hlast : h.blocks.getLast? = some last) :
    Forward first last ↔ h.Ordered := by
  obtain ⟨x, y, a, b, hhead, hend, hstart, hfits, hfits', holdEnd, hnewEnd⟩ := hstands.exists_border
  obtain rfl := Option.some.inj (hhead.symm.trans hfirst)
  obtain rfl := Option.some.inj (hend.symm.trans hlast)
  have hleOld : h.old ≤ h.oldEnd := Nat.le_add_right _ _
  have hleNew : h.new ≤ h.newEnd := Nat.le_add_right _ _
  constructor
  · rintro ⟨hold, hnew⟩
    refine ⟨fun z hz hinsertion ↦ ?_, fun z hz w hw hkeeps hdeletion ↦ ?_,
      fun z hz w hw hdeletion hkeeps ↦ ?_⟩
    · obtain rfl := Option.some.inj (hlast.symm.trans hz)
      rwa [hstart, hinsertion.2] at hold
    · obtain rfl := Option.some.inj (hfirst.symm.trans hz)
      obtain rfl := Option.some.inj (hlast.symm.trans hw)
      rwa [hfits.new_eq hkeeps, hdeletion.2] at hnew
    · obtain rfl := Option.some.inj (hfirst.symm.trans hz)
      obtain rfl := Option.some.inj (hlast.symm.trans hw)
      rwa [hfits'.new_eq hkeeps, ← hnewEnd] at hnew
  · rintro ⟨holdLast, hnewLast, hnewFirst⟩
    constructor
    · rw [hstart]
      by_cases hinsertion : y.IsInsertion
      · exact Nat.le_add_right_of_le (holdLast y hlast hinsertion)
      · rwa [hfits'.old_eq hinsertion, ← holdEnd]
    · -- Two mere deletions name places in order; any other block names its own place.
      by_cases hdeletion : x.IsDeletion
      · by_cases hdeletion' : y.IsDeletion
        · exact Nat.le_add_right_of_le (new_le_of_sorted hsorted hfirst hlast hdeletion hdeletion')
        · rw [hfits'.new_eq hdeletion', ← hnewEnd]
          exact hnewFirst x hfirst y hlast hdeletion hdeletion'
      · rw [hfits.new_eq hdeletion]
        by_cases hdeletion' : y.IsDeletion
        · exact Nat.le_add_right_of_le (hnewLast x hfirst y hlast hdeletion hdeletion')
        · rwa [hfits'.new_eq hdeletion', ← hnewEnd]

/-- Kept lines name their places, so a hunk between kept lines is in order. -/
theorem ordered_of_isEqual (hfirst : h.blocks.head? = some first)
    (hlast : h.blocks.getLast? = some last) (hequal : first.isEqual = true)
    (hequal' : last.isEqual = true) : h.Ordered := by
  refine ⟨fun z hz hinsertion ↦ ?_, fun z hz w hw _ hdeletion ↦ ?_, fun z hz w hw hdeletion _ ↦ ?_⟩
  · obtain rfl := Option.some.inj (hlast.symm.trans hz)
    exact absurd (hequal'.symm.trans hinsertion.1) nofun
  · obtain rfl := Option.some.inj (hlast.symm.trans hw)
    exact absurd (hequal'.symm.trans hdeletion.1) nofun
  · obtain rfl := Option.some.inj (hfirst.symm.trans hz)
    exact absurd (hequal.symm.trans hdeletion.1) nofun

theorem Behind.ordered {after : Nat} (hbehind : h.Behind old new inserts removed added)
    (hstands : h.Stands old new) (hfirst : h.blocks.head? = some first)
    (hlast : h.blocks.getLast? = some last)
    (hinserts : inserts = added + h.count old new .added + after)
    (hremoved : removed ≤ h.count old new .context) (hadded : added ≤ h.count old new .context)
    (hafter : after ≤ h.count old new .context) : h.Ordered := by
  obtain ⟨k, hold, hnew, hfirstNew, hlastOld, hlastNew⟩ := hbehind.names hfirst hlast
  obtain ⟨hkept, -, hlines⟩ := count_blocks hstands.covers
  have hcount : h.count old new .context + h.count old new .added = newLines h.blocks := by
    rw [Hunk.count, body, hkept]
    exact hlines
  refine ⟨fun z hz hinsertion ↦ ?_, fun z hz w hw _ hdeletion ↦ ?_, fun z hz w hw hdeletion _ ↦ ?_⟩
  · obtain rfl := Option.some.inj (hlast.symm.trans hz)
    have := hlastOld hinsertion
    omega
  · obtain rfl := Option.some.inj (hlast.symm.trans hw)
    have := hlastNew hdeletion
    omega
  · obtain rfl := Option.some.inj (hfirst.symm.trans hz)
    have := hfirstNew hdeletion
    rw [newEnd]
    omega

end Hunk

/-! ## The hunks of a patch -/

theorem behind_hunksBetween {base proposed : String} {before after : List Hunk} {h : Hunk}
    (hsplit : hunksBetween base proposed = before ++ h :: after) :
    let old := Text.linesOf base
    let new := Text.linesOf proposed
    h.Behind old new (total old new .added (before ++ h :: after)) (total old new .removed before)
      (total old new .added before) := by
  intro old new
  rw [hunksBetween] at hsplit
  split at hsplit
  next => exact absurd hsplit.symm (by simp)
  next =>
    obtain ⟨inserts, hcut⟩ := groupsCut_groupsBetween contextRadius old new
    obtain ⟨hinserts, hbehind⟩ := behind_of_groupsCut (n := 0) hcut rfl rfl
    have hplace := hbehind before h after hsplit
    rw [hinserts, hsplit] at hplace
    simpa only [Nat.zero_add] using hplace

theorem sorted_of_mem_hunksBetween {base proposed : String} {h : Hunk}
    (hmem : h ∈ hunksBetween base proposed) :
    (h.blocks.flatMap Block.deletedPlace).Pairwise (· ≤ ·) := by
  rw [hunksBetween] at hmem
  split at hmem
  next => exact absurd hmem List.not_mem_nil
  next =>
    obtain ⟨-, hstands⟩ := laidOut_place
      (groupsCover_groupsBetween contextRadius (Text.linesOf base) (Text.linesOf proposed))
    exact sorted_of_mem_groupsBetween (hstands h hmem).1

/-- **Hunks go forward unless lines elsewhere outnumber what they keep.** The lengths in the header
of a hunk are counted from the place of its first block to the end of its last. Both ways go forward
if and only if the empty runs at the border of the hunk do not lie beyond its other end. So it is if
the hunk starts and ends with kept lines, or if it keeps as many lines as the hunks before it
remove, as those before it add, and as those after it add. -/
theorem forward_hunk_iff (base proposed : String) :
    (between base proposed).lines = ((hunksBetween base proposed).flatMap fun h ↦
      hunkLines (Text.linesOf base) (Text.linesOf proposed) h.blocks) ∧
    ∀ before h after, hunksBetween base proposed = before ++ h :: after →
      let old := Text.linesOf base
      let new := Text.linesOf proposed
      ∃ first last, h.blocks.head? = some first ∧ h.blocks.getLast? = some last ∧
        hunkLines old new h.blocks =
          ⟨.header, (groupHeader first last).render⟩ :: h.body old new ∧
        (Forward first last ↔ h.Ordered) ∧
        (first.isEqual = true → last.isEqual = true → Forward first last) ∧
        (total old new .removed before ≤ h.count old new .context →
          total old new .added before ≤ h.count old new .context →
          total old new .added after ≤ h.count old new .context → Forward first last) := by
  refine ⟨lines_between base proposed, ?_⟩
  intro before h after hsplit old new
  have hmem : h ∈ hunksBetween base proposed := by
    rw [hsplit]
    exact List.mem_append_right _ List.mem_cons_self
  have hstands := ((mem_hunksBetween base proposed).2 h hmem).1
  obtain ⟨first, last, -, -, hfirst, hlast, -⟩ := hstands.exists_border
  have hforward := hstands.forward_iff (sorted_of_mem_hunksBetween hmem) hfirst hlast
  refine ⟨first, last, hfirst, hlast, hunkLines_eq hfirst hlast, hforward,
    fun hequal hequal' ↦ hforward.mpr (Hunk.ordered_of_isEqual hfirst hlast hequal hequal'),
    fun hremoved hadded hafter ↦ hforward.mpr ?_⟩
  refine (behind_hunksBetween hsplit).ordered hstands hfirst hlast ?_ hremoved hadded hafter
  rw [total, List.map_append, List.sum_append, List.map_cons, List.sum_cons, ← Nat.add_assoc]
  rfl

/-- The deletion of the first line says that four lines of the proposed text are before it, and the
hunk that it starts shows only three. It changed places with the insertion of four lines, which then
slid down behind the lines that the hunk keeps. -/
theorem not_forward_stale_deletion :
    (between "0\na\na\na\na\na\na\na\n" "a\na\na\na\na\na\na\na\na\na\na\na\n").lines.head? =
        some ⟨.header, "@@ -1,4 +5,18446744073709551615 @@"⟩ ∧
      ¬∀ h ∈ hunksBetween "0\na\na\na\na\na\na\na\n"
          "a\na\na\na\na\na\na\na\na\na\na\na\n",
        ∀ first ∈ h.blocks.head?, ∀ last ∈ h.blocks.getLast?, Forward first last := by
  have hhunks : hunksBetween "0\na\na\na\na\na\na\na\n"
      "a\na\na\na\na\na\na\na\na\na\na\na\n" =
        [⟨0, 0, [⟨false, 0, 1, 4, 0⟩, .equal 1 0 3]⟩,
          ⟨5, 4, [.equal 5 4 3, ⟨false, 7, 0, 7, 5⟩]⟩] := by cbv
  constructor
  · rw [lines_between, hhunks]
    decide +kernel
  · intro hforward
    rw [hhunks] at hforward
    have hfirst := hforward _ List.mem_cons_self ⟨false, 0, 1, 4, 0⟩ rfl (.equal 1 0 3) rfl
    exact absurd hfirst.new_le (by decide)

end Redline.Patch
