import Redline.Patch.Between
import Redline.Patch.Replay
import Redline.Proofs.Diff.Cut
import Redline.Proofs.Patch.Header
import Redline.Proofs.Text.Lines

/-!
# The patch between two texts makes the second of the first

A replay that stands at a pair of places has read the lines of the base text up to the first and has
written the lines of the proposed text up to the second. Every hunk keeps this: its header names the
place in the base text where its group starts, so the lines between hunks are copied as they are,
and its lines lead from there to where the group ends.
-/

namespace Redline.Patch

open Redline.Diff

variable {source old new : Array String} {i j i' j' n : Nat}

/-! ## Lines of an array -/

theorem linesFrom_append (hij : i ≤ j) (hjn : j ≤ n) :
    linesFrom source i j ++ linesFrom source j n = linesFrom source i n := by
  rw [linesFrom, linesFrom, linesFrom, ← Array.toList_append, Array.extract_append_extract,
    Nat.min_eq_left hij, Nat.max_eq_right hjn]

@[simp] theorem linesFrom_self : linesFrom source i i = [] := by
  simp [linesFrom]

theorem linesFrom_succ (h : i < source.size) (hn : i < n) :
    linesFrom source i n = source[i] :: linesFrom source (i + 1) n := by
  have hlength : i < source.toList.length := h
  rw [linesFrom, linesFrom, Array.toList_extract, Array.toList_extract, List.extract_eq_take_drop,
    List.extract_eq_take_drop, List.drop_eq_getElem_cons hlength,
    show n - i = n - (i + 1) + 1 by omega, List.take_succ_cons, Array.getElem_toList]

theorem linesFrom_eq_of_sameRun (h : SameRun old new i j n) :
    linesFrom old i (i + n) = linesFrom new j (j + n) := h.extract_eq

/-! ## Replaying line by line -/

theorem steps_cons {p q : Progress} {l : PatchLine} {ls : List PatchLine}
    (h : step source p l = .ok q) : steps source p (l :: ls) = steps source q ls := by
  rw [steps, h]

theorem steps_append {p q : Progress} {ls ms : List PatchLine} (h : steps source p ls = .ok q) :
    steps source p (ls ++ ms) = steps source q ms := by
  induction ls generalizing p with
  | nil =>
    obtain rfl : p = q := Except.ok.inj h
    rfl
  | cons l ls ih =>
    cases hstep : step source p l with
    | error e =>
      rw [steps, hstep] at h
      exact absurd h nofun
    | ok p' =>
      rw [steps_cons hstep] at h
      rw [List.cons_append, steps_cons hstep]
      exact ih h

theorem linesAs_succ {kind : LineKind} (h : i < source.size) :
    linesAs kind source i (n + 1) = ⟨kind, source[i]⟩ :: linesAs kind source (i + 1) n := by
  have hlines := linesFrom_succ (n := i + (n + 1)) h (by omega)
  rw [show i + (n + 1) = i + 1 + n by omega] at hlines
  rw [linesAs, linesAs, show i + (n + 1) = i + 1 + n by omega]
  exact congrArg (List.map fun text ↦ (⟨kind, text⟩ : PatchLine)) hlines

/-- An empty run of lines is the same wherever it is said to start. -/
theorem linesAs_congr {kind : LineKind} {k : Nat} (h : 0 < n → k = i) :
    linesAs kind source k n = linesAs kind source i n := by
  cases n with
  | zero => simp [linesAs]
  | succ n => rw [h (Nat.succ_pos n)]

theorem steps_context (out : List String) (h : i + n ≤ source.size) :
    steps source ⟨i, true, out⟩ (linesAs .context source i n)
      = .ok ⟨i + n, true, (linesFrom source i (i + n)).reverse ++ out⟩ := by
  induction n generalizing i out with
  | zero => simp [linesAs, steps]
  | succ n ih =>
    have hi : i < source.size := by omega
    have hstep : step source ⟨i, true, out⟩ ⟨.context, source[i]⟩
        = .ok ⟨i + 1, true, source[i] :: out⟩ := by
      simp [step, hi]
    rw [linesAs_succ hi, steps_cons hstep, ih _ (by omega),
      linesFrom_succ hi (n := i + (n + 1)) (by omega), show i + 1 + n = i + (n + 1) by omega,
      List.reverse_cons, List.append_assoc, List.singleton_append]

theorem steps_removed (out : List String) (h : i + n ≤ source.size) :
    steps source ⟨i, true, out⟩ (linesAs .removed source i n) = .ok ⟨i + n, true, out⟩ := by
  induction n generalizing i with
  | zero => simp [linesAs, steps]
  | succ n ih =>
    have hi : i < source.size := by omega
    have hstep : step source ⟨i, true, out⟩ ⟨.removed, source[i]⟩ = .ok ⟨i + 1, true, out⟩ := by
      simp [step, hi]
    rw [linesAs_succ hi, steps_cons hstep, ih (by omega), show i + 1 + n = i + (n + 1) by omega]

theorem steps_added (out : List String) (h : j + n ≤ new.size) :
    steps source ⟨i, true, out⟩ (linesAs .added new j n)
      = .ok ⟨i, true, (linesFrom new j (j + n)).reverse ++ out⟩ := by
  induction n generalizing j out with
  | zero => simp [linesAs, steps]
  | succ n ih =>
    have hj : j < new.size := by omega
    have hstep : step source ⟨i, true, out⟩ ⟨.added, new[j]⟩ = .ok ⟨i, true, new[j] :: out⟩ := by
      simp [step]
    rw [linesAs_succ hj, steps_cons hstep, ih _ (by omega),
      linesFrom_succ hj (n := j + (n + 1)) (by omega), show j + 1 + n = j + (n + 1) by omega,
      List.reverse_cons, List.append_assoc, List.singleton_append]

/-! ## Replaying hunk by hunk -/

/-- The state of a replay that has read the base text up to one place and has written the proposed
text up to another. -/
def standing (new : Array String) (inHunk : Bool) (i j : Nat) : Progress :=
  ⟨i, inHunk, (linesFrom new 0 j).reverse⟩

theorem standing_written {inHunk : Bool} (hn : j ≤ n) :
    (⟨i, inHunk, (linesFrom new j n).reverse ++ (linesFrom new 0 j).reverse⟩ : Progress)
      = standing new inHunk i n := by
  rw [standing, ← List.reverse_append, linesFrom_append (Nat.zero_le j) hn]

theorem steps_blockLines {b : Block} (h : b.Fits old new i j) :
    steps old (standing new true i j) (blockLines old new b)
      = .ok (standing new true (i + b.oldLength) (j + b.newLength)) := by
  cases hb : b.isEqual with
  | true =>
    obtain ⟨heq, hrun⟩ := h.eq_equal hb
    generalize b.oldLength = length at heq hrun
    subst heq
    have hlines := steps_context (linesFrom new 0 j).reverse hrun.old_le
    rw [linesFrom_eq_of_sameRun hrun, standing_written (Nat.le_add_right j length)] at hlines
    exact hlines
  | false =>
    rw [Block.Fits, if_neg (by rw [hb]; exact Bool.false_ne_true)] at h
    obtain ⟨hold, hnew, -, hplace, hplace'⟩ := h
    have hremoved : steps old (standing new true i j) (linesAs .removed old i b.oldLength)
        = .ok (standing new true (i + b.oldLength) j) := steps_removed _ hold
    have hadded : steps old (standing new true (i + b.oldLength) j)
        (linesAs .added new j b.newLength)
          = .ok ⟨i + b.oldLength, true, (linesFrom new j (j + b.newLength)).reverse ++
            (linesFrom new 0 j).reverse⟩ := steps_added _ hnew
    rw [standing_written (Nat.le_add_right j b.newLength)] at hadded
    rw [blockLines, if_neg (by rw [hb]; exact Bool.false_ne_true), linesAs_congr hplace,
      linesAs_congr hplace', steps_append hremoved, hadded]

theorem steps_blocks {bs : List Block} (h : BlocksCover old new i j bs i' j') :
    steps old (standing new true i j) (bs.flatMap (blockLines old new))
      = .ok (standing new true i' j') := by
  induction bs generalizing i j with
  | nil =>
    obtain ⟨rfl, rfl⟩ := h
    rfl
  | cons b bs ih =>
    obtain ⟨hfits, hrest⟩ := h
    rw [List.flatMap_cons, steps_append (steps_blockLines hfits)]
    exact ih hrest

theorem groupHeader_fitsWord {first last : Block} (hold : 2 * first.old < Text.wordBound)
    (hnew : 2 * first.new < Text.wordBound) : (groupHeader first last).FitsWord := by
  have hbound : 1 < Text.wordBound := by decide
  have hspan : ∀ start stop, wordSpan start stop < Text.wordBound :=
    fun start stop ↦ Nat.mod_lt _ (Nat.zero_lt_of_lt hbound)
  have hstart : ∀ {r : LineRange}, 2 * r.start < Text.wordBound →
      r.shownStart < Text.wordBound := by
    intro r hr
    rw [LineRange.shownStart]
    split <;> omega
  exact ⟨⟨hstart hold, hspan _ _⟩, hstart hnew, hspan _ _⟩

/-- A hunk copies the lines before it and leads to where its group ends. -/
theorem steps_hunkLines {group : List Block} (inHunk : Bool)
    (hold : 2 * old.size < Text.wordBound) (hnew : 2 * new.size < Text.wordBound)
    (hrun : SameRun old new i j n) (hne : group ≠ []) (hstarts : StartsAt (i + n) group)
    (hgroup : BlocksCover old new (i + n) (j + n) group i' j') :
    steps old (standing new inHunk i j) (hunkLines old new group)
      = .ok (standing new true i' j') := by
  obtain ⟨first, rest, rfl⟩ := List.exists_cons_of_ne_nil hne
  have hfirst : first.old = i + n := startsAt_cons.mp hstarts
  have hold_le := hrun.old_le
  obtain ⟨-, -, hnew_le⟩ := hgroup.1.bounds
  obtain ⟨last, hlast⟩ : ∃ last, (first :: rest).getLast? = some last :=
    ⟨_, List.getLast?_eq_some_getLast hne⟩
  have hfits : (groupHeader first last).FitsWord := groupHeader_fitsWord (by omega) (by omega)
  have hstep : step old (standing new inHunk i j) ⟨.header, (groupHeader first last).render⟩
      = .ok (standing new true (i + n) (j + n)) := by
    -- The header names the true place, so the lines up to it are copied.
    have hstart : (groupHeader first last).old.start = i + n := hfirst
    rw [← standing_written (Nat.le_add_right j n), ← linesFrom_eq_of_sameRun hrun]
    simp only [step, Header.read?_render hfits, hstart, standing]
    rw [if_neg (by omega), if_neg (by omega)]
  simp only [hunkLines, hlast]
  rw [steps_cons hstep]
  exact steps_blocks hgroup

/-- The hunks of groups that cover a way lead along it, up to the equal lines at its end. -/
theorem steps_hunks {groups : List (List Block)} (inHunk : Bool)
    (hold : 2 * old.size < Text.wordBound) (hnew : 2 * new.size < Text.wordBound)
    (h : GroupsCover old new i j groups i' j') :
    ∃ inHunk' a b skip, steps old (standing new inHunk i j) (groups.flatMap (hunkLines old new))
        = .ok (standing new inHunk' a b) ∧
      SameRun old new a b skip ∧ i' = a + skip ∧ j' = b + skip := by
  induction groups generalizing i j inHunk with
  | nil =>
    obtain ⟨skip, hrun, hi', hj'⟩ := h
    exact ⟨inHunk, i, j, skip, rfl, hrun, hi', hj'⟩
  | cons group groups ih =>
    obtain ⟨skip, a, b, hrun, hne, hstarts, hgroup, hrest⟩ := h
    rw [List.flatMap_cons, steps_append (steps_hunkLines inHunk hold hnew hrun hne hstarts hgroup)]
    exact ih true hrest

/-! ## The round trip -/

theorem hunkLines_ne_nil {group : List Block} (h : group ≠ []) : hunkLines old new group ≠ [] := by
  obtain ⟨first, rest, rfl⟩ := List.exists_cons_of_ne_nil h
  simp [hunkLines, List.getLast?_eq_some_getLast h]

theorem eq_of_hunks_eq_nil {groups : List (List Block)}
    (h : GroupsCover old new 0 0 groups old.size new.size)
    (hnil : groups.flatMap (hunkLines old new) = []) : old = new := by
  cases groups with
  | nil =>
    obtain ⟨skip, hrun, hold, hnew⟩ := h
    have hlines := hrun.extract_eq
    rw [Array.extract_eq_self_of_le (Nat.le_of_eq hold),
      Array.extract_eq_self_of_le (Nat.le_of_eq hnew)] at hlines
    exact Array.toList_inj.mp hlines
  | cons group groups =>
    obtain ⟨-, -, -, -, hne, -⟩ := h
    rw [List.flatMap_cons, List.append_eq_nil_iff] at hnil
    exact absurd hnil.1 (hunkLines_ne_nil hne)

theorem isEmpty_between {base proposed : String} :
    (between base proposed).isEmpty = true ↔ base = proposed := by
  constructor
  · intro hempty
    by_cases heq : base = proposed
    · exact heq
    · rw [between, if_neg heq, isEmpty, List.isEmpty_iff] at hempty
      exact Text.linesOf_injective (eq_of_hunks_eq_nil
        (groupsCover_groupsBetween contextRadius _ _) hempty)
  · intro heq
    rw [between, if_pos heq]
    rfl

/-- Any hunks of groups that cover two texts make the second of the first. -/
theorem applyTo_hunks {base proposed : String} {groups : List (List Block)}
    (hbase : Text.FitsMemory base) (hproposed : Text.FitsMemory proposed)
    (h : GroupsCover (Text.linesOf base) (Text.linesOf proposed) 0 0 groups
      (Text.linesOf base).size (Text.linesOf proposed).size) :
    applyTo ⟨groups.flatMap (hunkLines (Text.linesOf base) (Text.linesOf proposed))⟩ base
      = .ok proposed := by
  obtain ⟨inHunk, a, b, skip, hsteps, hrun, hold, hnew⟩ :=
    steps_hunks false hbase.size_linesOf_lt hproposed.size_linesOf_lt h
  have hstart : Progress.start = standing (Text.linesOf proposed) false 0 0 := by
    rw [standing, linesFrom_self]
    rfl
  -- Behind the last hunk both texts go on with the same lines.
  have hrest : linesFrom (Text.linesOf base) a (Text.linesOf base).size
      = linesFrom (Text.linesOf proposed) b (Text.linesOf proposed).size := by
    rw [hold, hnew]
    exact linesFrom_eq_of_sameRun hrun
  have hlines : (linesFrom (Text.linesOf proposed) 0 b).reverse.reverse ++
      linesFrom (Text.linesOf proposed) b (Text.linesOf proposed).size
        = (Text.linesOf proposed).toList := by
    rw [List.reverse_reverse, linesFrom_append (Nat.zero_le b) (by omega), linesFrom,
      Array.extract_size]
  simp only [applyTo, hstart, hsteps]
  rw [standing, hrest, hlines, Text.join_linesOf]

/-- **The patch between two texts makes the second of the first**, whatever their lines and
terminators are, and it shows no difference exactly when there is none. -/
theorem applyTo_between (base proposed : String) (hbase : Text.FitsMemory base)
    (hproposed : Text.FitsMemory proposed) :
    (between base proposed).applyTo base = .ok proposed ∧
      ((between base proposed).isEmpty = true ↔ base = proposed) := by
  refine ⟨?_, isEmpty_between⟩
  by_cases heq : base = proposed
  · subst heq
    rw [between, if_pos rfl]
    have hcovers : GroupsCover (Text.linesOf base) (Text.linesOf base) 0 0 []
        (Text.linesOf base).size (Text.linesOf base).size :=
      ⟨_, SameRun.refl _, (Nat.zero_add _).symm, (Nat.zero_add _).symm⟩
    exact applyTo_hunks hbase hbase hcovers
  · rw [between, if_neg heq]
    exact applyTo_hunks hbase hproposed (groupsCover_groupsBetween contextRadius _ _)

theorem applyTo_between_terminators :
    (Text.FitsMemory "a\nb\rc" ∧ Text.FitsMemory "b\r\nc\n") ∧
      (between "a\nb\rc" "b\r\nc\n").applyTo "a\nb\rc" = .ok "b\r\nc\n" ∧
        (between "a\nb\rc" "b\r\nc\n").isEmpty = false := by
  have hbase : Text.FitsMemory "a\nb\rc" := by decide
  have hproposed : Text.FitsMemory "b\r\nc\n" := by decide
  obtain ⟨happly, hempty⟩ := applyTo_between _ _ hbase hproposed
  refine ⟨⟨hbase, hproposed⟩, happly, ?_⟩
  rw [Bool.eq_false_iff, Ne, hempty]
  decide

end Redline.Patch
