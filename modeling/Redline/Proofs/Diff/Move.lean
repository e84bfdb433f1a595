import Redline.Diff.Settle
import Redline.Proofs.Diff.Cover

/-!
# Moves of an edit

A change moves through a script by changing places with a neighbour, by taking it in, or by sliding
over equal lines. Each of these moves replaces a few neighbours by others that lead from the same
places to the same places.
-/

namespace Redline.Diff

variable {α : Type} {old new : Array α} {i j i' j' n : Nat} {script : List Edit}

/-! ## Neighbours of a change -/

theorem delete_insert_or_insert_delete {d e : Edit} (hd : d.kind ≠ .equal) (he : e.kind ≠ .equal)
    (hkind : d.kind ≠ e.kind) :
    d.kind = .delete ∧ e.kind = .insert ∨ d.kind = .insert ∧ e.kind = .delete := by
  cases hdk : d.kind <;> cases hek : e.kind <;> simp_all

theorem covers_delete_insert {d e : Edit} (hd : d.kind = .delete) (he : e.kind = .insert) :
    Covers old new i j (d :: e :: script) i' j' ↔ Covers old new i j (e :: d :: script) i' j' := by
  simp only [Covers, chain_cons, Edit.span_delete hd, Edit.span_insert he, Edit.fits_delete hd,
    Edit.fits_insert he, Nat.add_zero]
  exact and_left_comm

theorem Covers.swap {d e : Edit} (hd : d.kind ≠ .equal) (he : e.kind ≠ .equal)
    (hkind : d.kind ≠ e.kind) (h : Covers old new i j (d :: e :: script) i' j') :
    Covers old new i j (e :: d :: script) i' j' := by
  rcases delete_insert_or_insert_delete hd he hkind with ⟨hd', he'⟩ | ⟨hd', he'⟩
  · exact (covers_delete_insert hd' he').mp h
  · exact (covers_delete_insert he' hd').mpr h

theorem Covers.merge {d e : Edit} (hd : d.kind ≠ .equal) (hkind : d.kind = e.kind)
    (h : Covers old new i j (d :: e :: script) i' j') :
    Covers old new i j (d.growRight e.length :: script) i' j' := by
  obtain ⟨hfits, hfits', hrest⟩ := h
  have hgrown : (d.growRight e.length).kind = d.kind := rfl
  cases hk : d.kind with
  | equal => exact absurd hk hd
  | delete =>
    rw [hk] at hkind hgrown
    rw [Edit.span_delete hk] at hfits' hrest
    rw [Edit.span_delete hkind.symm] at hrest
    obtain ⟨hpos, hold, -, hnew⟩ := (Edit.fits_delete hk).mp hfits
    obtain ⟨-, -, hle, -⟩ := (Edit.fits_delete hkind.symm).mp hfits'
    refine ⟨(Edit.fits_delete hgrown).mpr ⟨Nat.add_pos_left hpos _, hold, ?_, hnew⟩, ?_⟩
    · rwa [Nat.add_assoc] at hle
    · rw [Edit.span_delete hgrown]
      simpa only [Edit.growRight, Nat.add_zero, Nat.add_assoc] using hrest
  | insert =>
    rw [hk] at hkind hgrown
    rw [Edit.span_insert hk] at hfits' hrest
    rw [Edit.span_insert hkind.symm] at hrest
    obtain ⟨hpos, hnew, -⟩ := (Edit.fits_insert hk).mp hfits
    obtain ⟨-, -, hle⟩ := (Edit.fits_insert hkind.symm).mp hfits'
    refine ⟨(Edit.fits_insert hgrown).mpr ⟨Nat.add_pos_left hpos _, hnew, ?_⟩, ?_⟩
    · rwa [Nat.add_assoc] at hle
    · rw [Edit.span_insert hgrown]
      simpa only [Edit.growRight, Nat.add_zero, Nat.add_assoc] using hrest

/-! ## Equal runs that grow and shrink -/

theorem covers_consNonempty {e : Edit} (hkind : e.kind = .equal)
    (hrun : e.old = i ∧ e.new = j ∧ SameRun old new i j e.length)
    (h : Covers old new (i + e.length) (j + e.length) script i' j') :
    Covers old new i j (consNonempty e script) i' j' := by
  rw [consNonempty]
  split
  next hempty =>
    have hzero : e.length = 0 := beq_iff_eq.mp hempty
    rwa [hzero] at h
  next hempty =>
    have hpos : 0 < e.length := by
      rw [Edit.isEmpty, beq_iff_eq] at hempty
      omega
    refine ⟨(Edit.fits_equal hkind).mpr ⟨hpos, hrun⟩, ?_⟩
    rw [Edit.span_equal hkind]
    exact h

theorem consNonempty_reverse_append (e : Edit) (before rest : List Edit) :
    (consNonempty e before).reverse ++ rest = before.reverse ++ consNonempty e rest := by
  rw [consNonempty, consNonempty]
  split
  · rfl
  · rw [List.reverse_cons, List.append_assoc, List.singleton_append]

/-- Equal lines in front of a script make its first equal run longer or are a run of their own. -/
theorem covers_lengthenAfter {prev e : Edit} {after : List Edit} (hpos : 0 < n)
    (hrun : SameRun old new (prev.old + prev.length - n) (e.new + e.length - n) n)
    (hold : n ≤ prev.old + prev.length) (hnew : n ≤ e.new + e.length)
    (h : Covers old new (prev.old + prev.length) (e.new + e.length) after i' j') :
    Covers old new (prev.old + prev.length - n) (e.new + e.length - n)
      (lengthenAfter prev e n after) i' j' := by
  -- The equal lines as a run of their own; an equal run that comes next takes them in.
  have hcons : Covers old new (prev.old + prev.length - n) (e.new + e.length - n)
      (⟨.equal, prev.old + prev.length - n, e.new + e.length - n, n⟩ :: after) i' j' := by
    refine ⟨(Edit.fits_equal rfl).mpr ⟨hpos, rfl, rfl, hrun⟩, ?_⟩
    rw [Edit.span_equal rfl]
    simp only [Nat.sub_add_cancel hold, Nat.sub_add_cancel hnew]
    exact h
  cases after with
  | nil => exact hcons
  | cons next rest =>
    rw [lengthenAfter]
    split
    next hnext =>
      obtain ⟨hfits, hrest⟩ := h
      obtain ⟨-, hnextOld, hnextNew, hrunNext⟩ := (Edit.fits_equal hnext).mp hfits
      rw [Edit.span_equal hnext] at hrest
      have hjoined := hrun.append
        (by rwa [Nat.sub_add_cancel hold, Nat.sub_add_cancel hnew])
      rw [Nat.add_comm n] at hjoined
      have hgrown : (next.growLeft n).kind = .equal := hnext
      refine ⟨(Edit.fits_equal hgrown).mpr ⟨Nat.add_pos_right _ hpos, ?_, ?_, hjoined⟩, ?_⟩
      · exact congrArg (· - n) hnextOld
      · exact congrArg (· - n) hnextNew
      · rw [Edit.span_equal hgrown]
        simp only [Edit.growLeft, Edit.shiftLeft]
        rwa [Nat.add_comm next.length, ← Nat.add_assoc, ← Nat.add_assoc, Nat.sub_add_cancel hold,
          Nat.sub_add_cancel hnew]
    next => exact hcons

theorem covers_lengthenBefore {e next : Edit} {before tail : List Edit}
    (h : Covers old new i j (before.reverse ++ ⟨.equal, next.old, e.new, n⟩ :: tail) i' j') :
    Covers old new i j ((lengthenBefore e next n before).reverse ++ tail) i' j' := by
  have hcons : Covers old new i j
      (((⟨.equal, next.old, e.new, n⟩ : Edit) :: before).reverse ++ tail) i' j' := by
    rwa [List.reverse_cons, List.append_assoc, List.singleton_append]
  cases before with
  | nil => exact hcons
  | cons prev rest =>
    rw [lengthenBefore]
    split
    next hprev =>
      rw [List.reverse_cons, List.append_assoc, List.singleton_append] at h ⊢
      refine h.replace_tail fun x y htail ↦ ?_
      obtain ⟨hfitsPrev, hfitsRun, hrest⟩ := htail
      obtain ⟨hpos, hold, hnew, hrunPrev⟩ := (Edit.fits_equal hprev).mp hfitsPrev
      rw [Edit.span_equal hprev] at hfitsRun hrest
      rw [Edit.span_equal rfl] at hrest
      obtain ⟨-, -, -, hrun⟩ := (Edit.fits_equal rfl).mp hfitsRun
      have hgrown : (prev.growRight n).kind = .equal := hprev
      refine ⟨(Edit.fits_equal hgrown).mpr
        ⟨Nat.add_pos_left hpos _, hold, hnew, hrunPrev.append hrun⟩, ?_⟩
      rw [Edit.span_equal hgrown]
      simp only [Edit.growRight, ← Nat.add_assoc]
      exact hrest
    next => exact hcons

/-! ## Sliding -/

section

variable [BEq α]

theorem slackUp_insert {prev e : Edit} (he : e.kind = .insert) : slackUp old new prev e =
    commonSuffix old new (prev.old + prev.length) (e.new + e.length) (min prev.length e.length) :=
  if_pos he

theorem slackUp_le_length {prev e : Edit} (he : e.kind = .insert) :
    slackUp old new prev e ≤ e.length := by
  rw [slackUp_insert he]
  exact Nat.le_trans (commonSuffix_le ..) (Nat.min_le_right ..)

theorem slackDown_insert {e next : Edit} (he : e.kind = .insert) : slackDown old new e next =
    commonPrefix old new next.old e.new (min next.length e.length) :=
  if_pos he

variable [LawfulBEq α]

/-- An insertion slides up over equal lines: they are equal to the lines at its end, and so become
equal lines after it. -/
theorem Covers.slideUp {prev e : Edit} {after : List Edit} (hprev : prev.kind = .equal)
    (he : e.kind = .insert) (hn : n = slackUp old new prev e) (hpos : 0 < n)
    (h : Covers old new i j (prev :: e :: after) i' j') :
    Covers old new i j
      (consNonempty (prev.dropRight n) (e.shiftLeft n :: lengthenAfter prev e n after)) i' j' := by
  obtain ⟨hfitsPrev, hfitsEdit, hrest⟩ := h
  obtain ⟨-, rfl, rfl, hrun⟩ := (Edit.fits_equal hprev).mp hfitsPrev
  rw [Edit.span_equal hprev] at hfitsEdit hrest
  rw [Edit.span_insert he] at hrest
  obtain ⟨hposEdit, hnew, hle⟩ := (Edit.fits_insert he).mp hfitsEdit
  simp only [Nat.add_zero] at hnew hle hrest
  rw [← hnew] at hrest hle
  have hold := hrun.old_le
  have hnPrev : n ≤ prev.length := hn ▸ slackUp_le old new prev e
  have hnEdit : n ≤ e.length := hn ▸ slackUp_le_length he
  -- The last `n` lines of the equal run are the last `n` lines of the insertion.
  obtain ⟨-, -, hsuffix⟩ := sameRun_commonSuffix (min prev.length e.length) hold hle
  rw [← slackUp_insert he, ← hn] at hsuffix
  have hafter := covers_lengthenAfter hpos hsuffix (by omega) (by omega) hrest
  have hshift : (e.shiftLeft n).kind = .insert := he
  refine covers_consNonempty hprev ⟨rfl, rfl, hrun.take (Nat.sub_le _ _)⟩ ⟨?_, ?_⟩
  · refine (Edit.fits_insert hshift).mpr ⟨hposEdit, ?_, ?_⟩ <;>
      simp only [Edit.shiftLeft, Edit.dropRight] <;> omega
  · rw [Edit.span_insert hshift]
    simp only [Edit.shiftLeft, Edit.dropRight]
    rwa [show prev.old + (prev.length - n) + 0 = prev.old + prev.length - n by omega,
      show prev.new + (prev.length - n) + e.length = e.new + e.length - n by omega]

/-- An insertion slides down over equal lines: they are equal to the lines at its start, and so
become equal lines before it. -/
theorem Covers.slideDown {e next : Edit} {before rest : List Edit} (hnext : next.kind = .equal)
    (he : e.kind = .insert) (hn : n = slackDown old new e next) (hpos : 0 < n)
    (h : Covers old new i j (before.reverse ++ e :: next :: rest) i' j') :
    Covers old new i j ((lengthenBefore e next n before).reverse ++
      e.shiftRight n :: consNonempty (next.dropLeft n) rest) i' j' := by
  refine covers_lengthenBefore (h.replace_tail fun x y htail ↦ ?_)
  obtain ⟨hfitsEdit, hfitsNext, hrest⟩ := htail
  obtain ⟨hposEdit, rfl, hle⟩ := (Edit.fits_insert he).mp hfitsEdit
  rw [Edit.span_insert he] at hfitsNext hrest
  obtain ⟨hposNext, rfl, hnew, hrun⟩ := (Edit.fits_equal hnext).mp hfitsNext
  rw [Edit.span_equal hnext] at hrest
  simp only [Nat.add_zero] at hnew hrun hrest
  have hold := hrun.old_le
  have hnNext : n ≤ next.length := hn ▸ slackDown_le old new e next
  -- The first `n` lines of the equal run are the first `n` lines of the insertion.
  have hfront : SameRun old new next.old e.new n := by
    rw [hn, slackDown_insert he]
    exact sameRun_commonPrefix _ (by omega) (by omega)
  have hshift : (e.shiftRight n).kind = .insert := he
  have hdrop : (next.dropLeft n).kind = .equal := hnext
  refine ⟨(Edit.fits_equal rfl).mpr ⟨hpos, rfl, rfl, hfront⟩, ?_, ?_⟩
  · refine (Edit.fits_insert hshift).mpr ⟨hposEdit, rfl, ?_⟩
    have := hrun.new_le
    simp only [Edit.shiftRight, Edit.span_equal]
    omega
  · rw [Edit.span_equal rfl, Edit.span_insert hshift]
    have hrest' := hrun.drop hnNext
    refine covers_consNonempty hdrop ⟨rfl, ?_, ?_⟩ ?_
    · simp only [Edit.dropLeft, Edit.shiftRight]
      omega
    · simp only [Edit.dropLeft, Edit.shiftRight, Nat.add_zero]
      rwa [show e.new + n + e.length = e.new + e.length + n by omega]
    · simp only [Edit.dropLeft, Edit.shiftRight, Nat.add_zero]
      rwa [show next.old + n + (next.length - n) = next.old + next.length by omega,
        show e.new + n + e.length + (next.length - n) = e.new + e.length + next.length by omega]

end

end Redline.Diff
