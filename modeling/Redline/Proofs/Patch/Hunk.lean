import Mathlib
import Redline.Proofs.Patch.RoundTrip

/-!
# Hunks and their headers

A hunk has a place in both texts, which is where its group stands there. The exact header of a hunk
gives these places and the numbers of lines that the hunk shows of either text.

The header that a hunk is shown with is computed from the places that its first and its last block
name. Blocks with a run in a sequence name the place of the run, and a hunk names the place in the
base text where it starts. What is left are the empty runs at the border of a hunk, whose places may
be stale: exactly when one of them is, the header is not the exact one.
-/

namespace Redline

/-- Whether lines of a kind are in the base text. -/
def LineKind.inBase : LineKind → Bool
  | .context | .removed => true
  | .added | .header => false

def LineKind.inProposed : LineKind → Bool
  | .context | .added => true
  | .removed | .header => false

namespace Patch

open Redline.Diff

variable {old new : Array String} {i j i' j' n : Nat}

/-! ## The lines that are shown -/

/-- The texts of the patch lines of some kinds. -/
def shown (kinds : LineKind → Bool) (ls : List PatchLine) : List String :=
  (ls.filter fun l ↦ kinds l.kind).map PatchLine.text

theorem shown_append (kinds : LineKind → Bool) (ls ms : List PatchLine) :
    shown kinds (ls ++ ms) = shown kinds ls ++ shown kinds ms := by
  rw [shown, List.filter_append, List.map_append]
  rfl

theorem shown_linesAs {kinds : LineKind → Bool} {kind : LineKind} {source : Array String} :
    shown kinds (linesAs kind source i n) =
      if kinds kind then linesFrom source i (i + n) else [] := by
  rw [shown, linesAs, List.filter_map, List.map_map, linesFrom]
  by_cases hkind : kinds kind
  · simp [Function.comp_def, hkind]
  · simp [Function.comp_def, hkind]

theorem length_linesFrom {source : Array String} (h : j ≤ source.size) :
    (linesFrom source i j).length = j - i := by
  rw [linesFrom, Array.length_toList, Array.size_extract, Nat.min_eq_left h]

theorem length_linesFrom_add {source : Array String} (h : i + n ≤ source.size) :
    (linesFrom source i (i + n)).length = n := by
  rw [length_linesFrom h, Nat.add_sub_cancel_left]

theorem kind_of_mem_linesAs {kind : LineKind} {source : Array String} {l : PatchLine}
    (h : l ∈ linesAs kind source i n) : l.kind = kind := by
  obtain ⟨text, -, rfl⟩ := List.mem_map.mp h
  rfl

theorem length_linesAs {kind : LineKind} {source : Array String} (h : i + n ≤ source.size) :
    (linesAs kind source i n).length = n := by
  rw [linesAs, List.length_map]
  exact length_linesFrom_add h

theorem shown_blockLines {b : Block} (h : b.Fits old new i j) :
    shown LineKind.inBase (blockLines old new b) = linesFrom old i (i + b.oldLength) ∧
      shown LineKind.inProposed (blockLines old new b) = linesFrom new j (j + b.newLength) := by
  cases hb : b.isEqual with
  | true =>
    obtain ⟨heq, hrun⟩ := h.eq_equal hb
    generalize b.oldLength = length at heq hrun
    subst heq
    refine ⟨shown_linesAs, shown_linesAs.trans ?_⟩
    exact linesFrom_eq_of_sameRun hrun
  | false =>
    rw [Block.Fits, if_neg (by rw [hb]; exact Bool.false_ne_true)] at h
    obtain ⟨-, -, -, hplace, hplace'⟩ := h
    rw [blockLines, if_neg (by rw [hb]; exact Bool.false_ne_true), linesAs_congr hplace,
      linesAs_congr hplace', shown_append, shown_append, shown_linesAs, shown_linesAs,
      shown_linesAs, shown_linesAs]
    exact ⟨List.append_nil _, rfl⟩

theorem shown_blocks {bs : List Block} (h : BlocksCover old new i j bs i' j') :
    shown LineKind.inBase (bs.flatMap (blockLines old new)) = linesFrom old i i' ∧
      shown LineKind.inProposed (bs.flatMap (blockLines old new)) = linesFrom new j j' := by
  induction bs generalizing i j with
  | nil =>
    obtain ⟨rfl, rfl⟩ := h
    exact ⟨linesFrom_self.symm, linesFrom_self.symm⟩
  | cons b bs ih =>
    obtain ⟨hfits, hrest⟩ := h
    obtain ⟨hold, hnew⟩ := shown_blockLines hfits
    obtain ⟨hold', hnew'⟩ := ih hrest
    obtain ⟨hle, hle', -⟩ := BlocksCover.bounds hrest
    rw [List.flatMap_cons, shown_append, shown_append, hold, hnew, hold', hnew']
    exact ⟨linesFrom_append (Nat.le_add_right _ _) hle,
      linesFrom_append (Nat.le_add_right _ _) hle'⟩

/-! ## Hunks in their places -/

/-- The number of old lines that blocks take up. -/
def oldLines : List Block → Nat
  | [] => 0
  | b :: bs => b.oldLength + oldLines bs

def newLines : List Block → Nat
  | [] => 0
  | b :: bs => b.newLength + newLines bs

/-- A hunk in its places. -/
structure Hunk where
  /-- The number of lines before it in the base text. -/
  old : Nat
  /-- The number of lines before it in the proposed text. -/
  new : Nat
  blocks : List Block

namespace Hunk

/-- The number of lines up to its end in the base text. -/
def oldEnd (h : Hunk) : Nat := h.old + oldLines h.blocks

def newEnd (h : Hunk) : Nat := h.new + newLines h.blocks

def body (old new : Array String) (h : Hunk) : List PatchLine :=
  h.blocks.flatMap (blockLines old new)

/-- The header that gives the places of a hunk and the numbers of lines that it shows. -/
def exactHeader (old new : Array String) (h : Hunk) : Header where
  old := ⟨h.old, (shown LineKind.inBase (h.body old new)).length⟩
  new := ⟨h.new, (shown LineKind.inProposed (h.body old new)).length⟩

/-- A hunk is shown with its exact header. -/
def Exact (old new : Array String) (h : Hunk) : Prop :=
  hunkLines old new h.blocks = ⟨.header, (h.exactHeader old new).render⟩ :: h.body old new

/-- The empty runs at the border of a hunk name the places where they stand. -/
structure Named (h : Hunk) : Prop where
  /-- A hunk that starts with a mere deletion names its place in the proposed text. -/
  first_new : ∀ b ∈ h.blocks.head?, b.newLength = 0 → b.new = h.new
  /-- A hunk that ends with a mere insertion names its end in the base text. -/
  last_old : ∀ b ∈ h.blocks.getLast?, b.oldLength = 0 → b.old = h.oldEnd
  /-- A hunk that ends with a mere deletion names its end in the proposed text. -/
  last_new : ∀ b ∈ h.blocks.getLast?, b.newLength = 0 → b.new = h.newEnd

/-- A hunk shows the lines of both texts between its places and its ends. -/
structure Shows (old new : Array String) (h : Hunk) : Prop where
  /-- The kept and the removed lines are those of the base text. -/
  base : shown LineKind.inBase (h.body old new) = linesFrom old h.old h.oldEnd
  /-- The kept and the added lines are those of the proposed text. -/
  proposed : shown LineKind.inProposed (h.body old new) = linesFrom new h.new h.newEnd
  old_le : h.oldEnd ≤ old.size
  new_le : h.newEnd ≤ new.size

end Hunk

/-- Hunks that follow one another up to the ends of both texts, with equal lines between them. -/
def LaidOut (old new : Array String) : Nat → Nat → List Hunk → Prop
  | i, j, [] => ∃ n, SameRun old new i j n ∧ old.size = i + n ∧ new.size = j + n
  | i, j, h :: hs => ∃ n, SameRun old new i j n ∧ h.old = i + n ∧ h.new = j + n ∧
      h.Shows old new ∧ LaidOut old new h.oldEnd h.newEnd hs

/-- The hunks of groups. Each starts where its first block says it does in the base text, and as
many lines after the hunk before it in the proposed text. -/
def place : Nat → Nat → List (List Block) → List Hunk
  | _, _, [] => []
  | i, j, group :: groups =>
    let start := (group.head?.map Block.old).getD i
    let hunk : Hunk := ⟨start, j + (start - i), group⟩
    hunk :: place hunk.oldEnd hunk.newEnd groups

/-- The hunks of the patch between two texts. -/
def hunksBetween (base proposed : String) : List Hunk :=
  if base = proposed then []
  else place 0 0 (groupsBetween contextRadius (Text.linesOf base) (Text.linesOf proposed))

theorem lines_between (base proposed : String) :
    (between base proposed).lines = (hunksBetween base proposed).flatMap fun h ↦
      hunkLines (Text.linesOf base) (Text.linesOf proposed) h.blocks := by
  have hplace : ∀ (gs : List (List Block)) (i j : Nat),
      (place i j gs).map Hunk.blocks = gs := by
    intro gs
    induction gs with
    | nil => exact fun _ _ ↦ rfl
    | cons group gs ih => exact fun i j ↦ congrArg (List.cons group) (ih _ _)
  rw [between, hunksBetween]
  split
  next => rfl
  next => rw [← List.flatMap_map, hplace]

/-! ## Groups in their places -/

namespace Hunk

/-- A hunk whose blocks lead from its places to its ends. -/
structure Stands (old new : Array String) (h : Hunk) : Prop where
  ne_nil : h.blocks ≠ []
  /-- Its first block names its place in the base text. -/
  starts : StartsAt h.old h.blocks
  /-- Its blocks cover the way from its places to its ends. -/
  covers : BlocksCover old new h.old h.new h.blocks h.oldEnd h.newEnd

variable {h : Hunk}

theorem Stands.shows (hstands : h.Stands old new) : h.Shows old new := by
  obtain ⟨hbase, hproposed⟩ := shown_blocks hstands.covers
  obtain ⟨-, -, hends⟩ := hstands.covers.bounds
  obtain ⟨hold, hnew⟩ := hends hstands.ne_nil
  exact ⟨hbase, hproposed, hold, hnew⟩

end Hunk

theorem end_eq_of_blocksCover {bs : List Block} (h : BlocksCover old new i j bs i' j') :
    i' = i + oldLines bs ∧ j' = j + newLines bs := by
  induction bs generalizing i j with
  | nil => exact h
  | cons b bs ih =>
    obtain ⟨hi', hj'⟩ := ih h.2
    rw [oldLines, newLines, ← Nat.add_assoc, ← Nat.add_assoc]
    exact ⟨hi', hj'⟩

theorem place_cons {gs : List (List Block)} {group : List Block} {skip : Nat} (hne : group ≠ [])
    (hstarts : StartsAt (i + skip) group) : place i j (group :: gs) =
      ⟨i + skip, j + skip, group⟩ ::
        place (i + skip + oldLines group) (j + skip + newLines group) gs := by
  obtain ⟨first, rest, rfl⟩ := List.exists_cons_of_ne_nil hne
  simp only [place, List.head?_cons, Option.map_some, Option.getD_some, startsAt_cons.mp hstarts,
    Nat.add_sub_cancel_left, Hunk.oldEnd, Hunk.newEnd]

/-- **The hunks of covering groups are laid out** over both texts. -/
theorem laidOut_place {gs : List (List Block)}
    (h : GroupsCover old new i j gs old.size new.size) :
    LaidOut old new i j (place i j gs) ∧
      ∀ hunk ∈ place i j gs, hunk.blocks ∈ gs ∧ hunk.Stands old new := by
  induction gs generalizing i j with
  | nil => exact ⟨h, fun hunk hmem ↦ absurd hmem List.not_mem_nil⟩
  | cons group gs ih =>
    obtain ⟨skip, a, b, hrun, hne, hstarts, hgroup, hrest⟩ := h
    obtain ⟨rfl, rfl⟩ := end_eq_of_blocksCover hgroup
    have hstands : Hunk.Stands old new ⟨i + skip, j + skip, group⟩ := ⟨hne, hstarts, hgroup⟩
    obtain ⟨hlaid, hmem⟩ := ih hrest
    rw [place_cons hne hstarts]
    refine ⟨⟨skip, hrun, rfl, rfl, hstands.shows, hlaid⟩, fun hunk hhunk ↦ ?_⟩
    rcases List.mem_cons.mp hhunk with rfl | hhunk
    · exact ⟨List.mem_cons_self, hstands⟩
    · obtain ⟨hblocks, hstands'⟩ := hmem hunk hhunk
      exact ⟨List.mem_cons_of_mem _ hblocks, hstands'⟩

/-! ## Exact headers -/

/-- Counted in a word, the way between two places is right only if the second place is. -/
theorem wordSpan_eq_iff {start stop length : Nat} (hlength : start + length < Text.wordBound)
    (hstop : stop < Text.wordBound) : wordSpan start stop = length ↔ stop = start + length := by
  rw [wordSpan]
  by_cases hle : start ≤ stop
  · rw [show Text.wordBound + stop - start = stop - start + Text.wordBound by omega,
      Nat.add_mod_right, Nat.mod_eq_of_lt (by omega)]
    omega
  · rw [Nat.mod_eq_of_lt (by omega)]
    omega

theorem render_inj {h h' : Header} (hfits : h.FitsWord) (hfits' : h'.FitsWord) :
    h.render = h'.render ↔ h = h' := by
  refine ⟨fun heq ↦ Option.some.inj ?_, congrArg Header.render⟩
  rw [← Header.read?_render hfits, heq, Header.read?_render hfits']

theorem fitsWord_of_le {start length size : Nat} (hle : start + length ≤ size)
    (hsize : 2 * size < Text.wordBound) : (⟨start, length⟩ : LineRange).FitsWord := by
  have hbound : 1 < Text.wordBound := by decide
  refine ⟨?_, by dsimp only; omega⟩
  rw [LineRange.shownStart]
  split <;> dsimp only <;> omega

theorem hunkLines_eq {bs : List Block} {first last : Block} (hfirst : bs.head? = some first)
    (hlast : bs.getLast? = some last) : hunkLines old new bs =
      ⟨.header, (groupHeader first last).render⟩ :: bs.flatMap (blockLines old new) := by
  obtain ⟨rest, rfl⟩ := List.head?_eq_some_iff.mp hfirst
  simp only [hunkLines, hlast]

namespace Hunk

variable {h : Hunk}

/-- The first and the last block of a hunk in their places. -/
theorem Stands.exists_border (hstands : h.Stands old new) :
    ∃ first last a b, h.blocks.head? = some first ∧ h.blocks.getLast? = some last ∧
      first.old = h.old ∧ first.Fits old new h.old h.new ∧ last.Fits old new a b ∧
        h.oldEnd = a + last.oldLength ∧ h.newEnd = b + last.newLength := by
  obtain ⟨hne, hstarts, hcovers⟩ := hstands
  obtain ⟨first, rest, hblocks⟩ := List.exists_cons_of_ne_nil hne
  have hsplit := List.dropLast_concat_getLast hne
  have hfirst := hcovers
  rw [hblocks] at hfirst hstarts
  rw [← hsplit] at hcovers
  obtain ⟨a, b, -, hlast⟩ := chain_append.mp hcovers
  exact ⟨first, h.blocks.getLast hne, a, b, by rw [hblocks, List.head?_cons],
    List.getLast?_eq_some_getLast hne, startsAt_cons.mp hstarts, hfirst.1, hlast.1, hlast.2⟩

theorem Stands.exactHeader_eq (hstands : h.Stands old new) :
    h.exactHeader old new = ⟨⟨h.old, h.oldEnd - h.old⟩, ⟨h.new, h.newEnd - h.new⟩⟩ := by
  obtain ⟨hbase, hproposed, hold, hnew⟩ := hstands.shows
  rw [exactHeader, hbase, hproposed, length_linesFrom hold, length_linesFrom hnew]

/-- **A header is exact if and only if the empty runs at the border name their true places.** -/
theorem Stands.exact_iff (hstands : h.Stands old new) (hold : 2 * old.size < Text.wordBound)
    (hnew : 2 * new.size < Text.wordBound)
    (hbound : ∀ b ∈ h.blocks, b.isEqual = false → b.old ≤ old.size) :
    h.Exact old new ↔ h.Named := by
  obtain ⟨first, last, a, b, hhead, hlast, hstart, hfirst, hfits, hoe, hne⟩ := hstands.exists_border
  obtain ⟨-, -, hendOld, hendNew⟩ := hstands.shows
  have hleOld : h.old ≤ h.oldEnd := Nat.le_add_right _ _
  have hleNew : h.new ≤ h.newEnd := Nat.le_add_right _ _
  obtain ⟨-, -, hfirstNew⟩ := hfirst.bounds
  obtain ⟨-, -, hlastNew⟩ := hfits.bounds
  have hlastOld : last.old ≤ old.size := by
    cases hequal : last.isEqual with
    | false => exact hbound last (List.mem_of_getLast? hlast) hequal
    | true =>
      rw [Block.Fits, if_pos hequal] at hfits
      have := hfits.2.2.2.old_le
      omega
  calc h.Exact old new
    _ ↔ (groupHeader first last).render = (h.exactHeader old new).render := by
      rw [Exact, hunkLines_eq hhead hlast, body, List.cons.injEq, PatchLine.mk.injEq]
      simp only [and_true, true_and]
    _ ↔ groupHeader first last = ⟨⟨h.old, h.oldEnd - h.old⟩, ⟨h.new, h.newEnd - h.new⟩⟩ := by
      rw [hstands.exactHeader_eq]
      refine render_inj (groupHeader_fitsWord (by omega) (by omega)) ⟨?_, ?_⟩
      · exact fitsWord_of_le (by omega) hold
      · exact fitsWord_of_le (by omega) hnew
    _ ↔ first.new = h.new ∧ last.old + last.oldLength = h.oldEnd ∧
          last.new + last.newLength = h.newEnd := by
      rw [groupHeader, Header.mk.injEq, LineRange.mk.injEq, LineRange.mk.injEq, hstart]
      have hspanOld : wordSpan h.old (last.old + last.oldLength) = h.oldEnd - h.old ↔
          last.old + last.oldLength = h.oldEnd := by
        rw [wordSpan_eq_iff (by omega) (by omega), Nat.add_sub_cancel' hleOld]
      have hspanNew : wordSpan h.new (last.new + last.newLength) = h.newEnd - h.new ↔
          last.new + last.newLength = h.newEnd := by
        rw [wordSpan_eq_iff (by omega) (by omega), Nat.add_sub_cancel' hleNew]
      constructor
      · rintro ⟨⟨-, holdEnd⟩, hnewStart, hnewEnd⟩
        rw [hnewStart] at hnewEnd
        exact ⟨hnewStart, hspanOld.mp holdEnd, hspanNew.mp hnewEnd⟩
      · rintro ⟨hnewStart, holdEnd, hnewEnd⟩
        rw [hnewStart]
        exact ⟨⟨rfl, hspanOld.mpr holdEnd⟩, rfl, hspanNew.mpr hnewEnd⟩
    _ ↔ h.Named := by
      constructor
      · rintro ⟨hnewStart, holdEnd, hnewEnd⟩
        refine ⟨fun x hx _ ↦ ?_, fun x hx hempty ↦ ?_, fun x hx hempty ↦ ?_⟩
        · obtain rfl := Option.some.inj (hhead.symm.trans hx)
          exact hnewStart
        · obtain rfl := Option.some.inj (hlast.symm.trans hx)
          rwa [hempty] at holdEnd
        · obtain rfl := Option.some.inj (hlast.symm.trans hx)
          rwa [hempty] at hnewEnd
      · rintro ⟨hfirstNamed, hlastNamed, hlastNamed'⟩
        -- A run that is not empty names its place, whatever has changed places with it.
        refine ⟨?_, ?_, ?_⟩
        · by_cases hempty : first.newLength = 0
          · exact hfirstNamed first hhead hempty
          · exact hfirst.new_eq fun hdeletion ↦ hempty hdeletion.2
        · by_cases hempty : last.oldLength = 0
          · rw [hlastNamed last hlast hempty, hempty, Nat.add_zero]
          · rw [hfits.old_eq fun hinsertion ↦ hempty hinsertion.2, hoe]
        · by_cases hempty : last.newLength = 0
          · rw [hlastNamed' last hlast hempty, hempty, Nat.add_zero]
          · rw [hfits.new_eq fun hdeletion ↦ hempty hdeletion.2, hne]

/-- Kept lines name their places, so the header of a hunk between kept lines is exact. -/
theorem Stands.named_of_isEqual (hstands : h.Stands old new)
    (hfirst : ∀ b ∈ h.blocks.head?, b.isEqual = true)
    (hlast : ∀ b ∈ h.blocks.getLast?, b.isEqual = true) : h.Named := by
  obtain ⟨first, last, a, b, hhead, hend, -, hfits, hfits', holdEnd, hnewEnd⟩ :=
    hstands.exists_border
  rw [Block.Fits, if_pos (hfirst first hhead)] at hfits
  rw [Block.Fits, if_pos (hlast last hend)] at hfits'
  refine ⟨fun x hx _ ↦ ?_, fun x hx hempty ↦ ?_, fun x hx hempty ↦ ?_⟩
  · obtain rfl := Option.some.inj (hhead.symm.trans hx)
    exact hfits.2.1
  · obtain rfl := Option.some.inj (hend.symm.trans hx)
    rw [holdEnd, hempty]
    exact hfits'.1
  · obtain rfl := Option.some.inj (hend.symm.trans hx)
    rw [hnewEnd, hempty]
    exact hfits'.2.1

end Hunk

/-! ## The headers of a patch -/

theorem mem_hunksBetween (base proposed : String) :
    LaidOut (Text.linesOf base) (Text.linesOf proposed) 0 0 (hunksBetween base proposed) ∧
      ∀ h ∈ hunksBetween base proposed,
        h.Stands (Text.linesOf base) (Text.linesOf proposed) ∧
          ∀ b ∈ h.blocks, b.isEqual = false → b.old ≤ (Text.linesOf base).size := by
  rw [hunksBetween]
  split
  next heq =>
    subst heq
    refine ⟨⟨_, SameRun.refl _, (Nat.zero_add _).symm, (Nat.zero_add _).symm⟩, ?_⟩
    exact fun h hmem ↦ absurd hmem List.not_mem_nil
  next =>
    obtain ⟨hlaid, hstands⟩ := laidOut_place
      (groupsCover_groupsBetween contextRadius (Text.linesOf base) (Text.linesOf proposed))
    refine ⟨hlaid, fun h hmem ↦ ?_⟩
    obtain ⟨hgroup, hstands⟩ := hstands h hmem
    exact ⟨hstands, fun b hb ↦ old_le_of_mem_groupsBetween hgroup hb⟩

/-- **Headers are exact up to stale places at the border of a hunk.** A patch is made of hunks that
are laid out over both texts. Each header names the true place in the base text; the whole header
is exact if and only if the empty runs at the border of the hunk name their true places, and so it
is if the hunk starts and ends with kept lines. -/
theorem exact_hunk_iff (base proposed : String) (hbase : Text.FitsMemory base)
    (hproposed : Text.FitsMemory proposed) :
    let old := Text.linesOf base
    let new := Text.linesOf proposed
    let hunks := hunksBetween base proposed
    (between base proposed).lines = (hunks.flatMap fun h ↦ hunkLines old new h.blocks) ∧
    LaidOut old new 0 0 hunks ∧
    ∀ h ∈ hunks,
      (∃ header : Header, header.old.start = h.old ∧
        hunkLines old new h.blocks = ⟨.header, header.render⟩ :: h.body old new) ∧
      (h.Exact old new ↔ h.Named) ∧
      ((∀ b ∈ h.blocks.head?, b.isEqual = true) → (∀ b ∈ h.blocks.getLast?, b.isEqual = true) →
        h.Exact old new) := by
  intro old new hunks
  obtain ⟨hlaid, hmem⟩ := mem_hunksBetween base proposed
  refine ⟨lines_between base proposed, hlaid, fun h hh ↦ ?_⟩
  obtain ⟨hstands, hbound⟩ := hmem h hh
  have hexact : h.Exact old new ↔ h.Named :=
    hstands.exact_iff hbase.size_linesOf_lt hproposed.size_linesOf_lt hbound
  refine ⟨?_, hexact, fun hfirst hlast ↦ hexact.mpr (hstands.named_of_isEqual hfirst hlast)⟩
  obtain ⟨first, last, -, -, hhead, hlast, hstart, -⟩ := hstands.exists_border
  exact ⟨groupHeader first last, hstart, hunkLines_eq hhead hlast⟩

theorem exact_hunk_kept_borders :
    (Text.FitsMemory "a\nb\nc\n" ∧ Text.FitsMemory "a\nx\nc\n") ∧
      hunksBetween "a\nb\nc\n" "a\nx\nc\n" =
        [⟨0, 0, [.equal 0 0 1, ⟨false, 1, 1, 1, 1⟩, .equal 2 2 1]⟩] ∧
      ∀ h ∈ hunksBetween "a\nb\nc\n" "a\nx\nc\n",
        h.Exact (Text.linesOf "a\nb\nc\n") (Text.linesOf "a\nx\nc\n") := by
  have hbase : Text.FitsMemory "a\nb\nc\n" := by decide
  have hproposed : Text.FitsMemory "a\nx\nc\n" := by decide
  have hhunks : hunksBetween "a\nb\nc\n" "a\nx\nc\n" =
      [⟨0, 0, [.equal 0 0 1, ⟨false, 1, 1, 1, 1⟩, .equal 2 2 1]⟩] := by cbv
  obtain ⟨-, -, hexact⟩ := exact_hunk_iff _ _ hbase hproposed
  refine ⟨⟨hbase, hproposed⟩, hhunks, fun h hmem ↦ (hexact h hmem).2.2 ?_ ?_⟩
  · obtain rfl := List.mem_singleton.mp (hhunks ▸ hmem)
    simp [Block.equal]
  · obtain rfl := List.mem_singleton.mp (hhunks ▸ hmem)
    simp [Block.equal]

/-- The deletion of the second line has changed places with the insertion of two lines, and still
says that one line of the proposed text is before it less than there is. -/
theorem not_exact_stale_deletion :
    let p := between "b\na\n" "a\nb\nb\n"
    (p.lines.head? = some ⟨.header, "@@ -1,2 +1,2 @@"⟩ ∧ p.hunkCount = 1 ∧
      p.count .context + p.count .added = 3) ∧
    ¬∀ h ∈ hunksBetween "b\na\n" "a\nb\nb\n",
      h.Exact (Text.linesOf "b\na\n") (Text.linesOf "a\nb\nb\n") := by
  have hhunks : hunksBetween "b\na\n" "a\nb\nb\n" =
      [⟨0, 0, [⟨false, 0, 0, 0, 2⟩, .equal 0 2 1, ⟨false, 1, 1, 2, 0⟩]⟩] := by cbv
  have hlines : (between "b\na\n" "a\nb\nb\n").lines =
      [⟨.header, "@@ -1,2 +1,2 @@"⟩, ⟨.added, "a\n"⟩, ⟨.added, "b\n"⟩, ⟨.context, "b\n"⟩,
        ⟨.removed, "a\n"⟩] := by
    rw [lines_between, hhunks]
    decide +kernel
  refine ⟨?_, fun hexact ↦ ?_⟩
  · simp only [Patch.hunkCount, Patch.count, hlines]
    decide
  rw [hhunks] at hexact
  have hwhole := hexact _ (List.mem_singleton_self _)
  revert hwhole
  rw [Hunk.Exact]
  decide +kernel

end Patch

end Redline
