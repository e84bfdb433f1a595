import Mathlib.Algebra.Ring.Nat
import Mathlib.Tactic.Set
import Redline.Diff.Search

/-!
# Scripts that cover both sequences

A script *covers* the way from one pair of places to another when its edits follow one another
without a gap in both sequences, each equal run being the same in both. Only the positions of runs
count: an insertion may name any place in the old sequence, a deletion any place in the new one.

The search covers its window whatever its tables hold, since a point of division is followed only
if it divides.
-/

namespace Redline.Diff

/-! ## Equal runs -/

/-- Both sequences hold the same `n` elements, from `i` on in the old and from `j` on in the new
one. -/
structure SameRun {α : Type} (old new : Array α) (i j n : Nat) : Prop where
  old_le : i + n ≤ old.size
  new_le : j + n ≤ new.size
  getElem?_eq : ∀ k < n, old[i + k]? = new[j + k]?

variable {α : Type} {old new : Array α} {i j m n : Nat}

namespace SameRun

theorem zero (hi : i ≤ old.size) (hj : j ≤ new.size) : SameRun old new i j 0 :=
  ⟨hi, hj, fun _ hk ↦ absurd hk (Nat.not_lt_zero _)⟩

theorem refl (old : Array α) : SameRun old old 0 0 old.size :=
  ⟨Nat.le_of_eq (Nat.zero_add _), Nat.le_of_eq (Nat.zero_add _), fun _ _ ↦ rfl⟩

theorem append (h : SameRun old new i j m) (h' : SameRun old new (i + m) (j + m) n) :
    SameRun old new i j (m + n) where
  old_le := by have := h'.old_le; omega
  new_le := by have := h'.new_le; omega
  getElem?_eq k hk := by
    by_cases hkm : k < m
    · exact h.getElem?_eq k hkm
    -- Behind the first run an element lies in the second one.
    · have hrest := h'.getElem?_eq (k - m) (by omega)
      rwa [show i + m + (k - m) = i + k by omega, show j + m + (k - m) = j + k by omega] at hrest

theorem take (h : SameRun old new i j n) (hm : m ≤ n) : SameRun old new i j m where
  old_le := by have := h.old_le; omega
  new_le := by have := h.new_le; omega
  getElem?_eq k hk := h.getElem?_eq k (by omega)

theorem drop (h : SameRun old new i j n) (hm : m ≤ n) :
    SameRun old new (i + m) (j + m) (n - m) where
  old_le := by have := h.old_le; omega
  new_le := by have := h.new_le; omega
  getElem?_eq k hk := by
    rw [Nat.add_assoc, Nat.add_assoc]
    exact h.getElem?_eq (m + k) (by omega)

theorem extract_eq (h : SameRun old new i j n) :
    (old.extract i (i + n)).toList = (new.extract j (j + n)).toList := by
  refine congrArg Array.toList (Array.ext_getElem? fun k ↦ ?_)
  have := h.old_le
  have := h.new_le
  by_cases hk : k < n
  · rw [Array.getElem?_extract, Array.getElem?_extract, if_pos (by omega), if_pos (by omega)]
    exact h.getElem?_eq k hk
  · rw [Array.getElem?_extract, Array.getElem?_extract, if_neg (by omega), if_neg (by omega)]

end SameRun

section

variable [BEq α] [LawfulBEq α]

theorem getElem?_eq_of_sameLine (h : sameLine old new i j = true) :
    i < old.size ∧ j < new.size ∧ old[i]? = new[j]? := by
  unfold sameLine at h
  split at h
  next a b ha hb =>
    refine ⟨(Array.getElem?_eq_some_iff.mp ha).1, (Array.getElem?_eq_some_iff.mp hb).1, ?_⟩
    rw [ha, hb, eq_of_beq h]
  next => exact absurd h Bool.false_ne_true

theorem sameLine_of_getElem?_eq (hi : i < old.size) (h : old[i]? = new[j]?) :
    sameLine old new i j = true := by
  have hold : old[i]? = some old[i] := Array.getElem?_eq_getElem hi
  rw [sameLine, ← h, hold]
  exact beq_self_eq_true _

theorem sameRun_one (h : sameLine old new i j = true) : SameRun old new i j 1 := by
  obtain ⟨hi, hj, heq⟩ := getElem?_eq_of_sameLine h
  refine ⟨hi, hj, fun k hk ↦ ?_⟩
  obtain rfl : k = 0 := by omega
  exact heq

theorem sameRun_commonPrefix (limit : Nat) (hi : i ≤ old.size) (hj : j ≤ new.size) :
    SameRun old new i j (commonPrefix old new i j limit) := by
  induction limit generalizing i j with
  | zero => exact SameRun.zero hi hj
  | succ limit ih =>
    rw [commonPrefix]
    split
    next h =>
      obtain ⟨hi', hj', -⟩ := getElem?_eq_of_sameLine h
      rw [Nat.add_comm]
      exact (sameRun_one h).append (ih hi' hj')
    next => exact SameRun.zero hi hj

omit [LawfulBEq α] in
theorem commonPrefix_pos {limit : Nat} (h : sameLine old new i j = true) (hlimit : 0 < limit) :
    0 < commonPrefix old new i j limit := by
  obtain ⟨limit, rfl⟩ := Nat.exists_eq_succ_of_ne_zero (Nat.ne_of_gt hlimit)
  rw [commonPrefix, if_pos h]
  exact Nat.succ_pos _

theorem sameRun_commonSuffix (limit : Nat) (hi : i ≤ old.size) (hj : j ≤ new.size) :
    commonSuffix old new i j limit ≤ i ∧ commonSuffix old new i j limit ≤ j ∧
      SameRun old new (i - commonSuffix old new i j limit) (j - commonSuffix old new i j limit)
        (commonSuffix old new i j limit) := by
  induction limit generalizing i j with
  | zero => exact ⟨Nat.zero_le _, Nat.zero_le _, SameRun.zero hi hj⟩
  | succ limit ih =>
    rw [commonSuffix]
    split
    next h =>
      obtain ⟨hpos, hpos', hlast⟩ := h
      obtain ⟨hle, hle', hrun⟩ := ih (i := i - 1) (j := j - 1) (by omega) (by omega)
      generalize commonSuffix old new (i - 1) (j - 1) limit = s at hle hle' hrun ⊢
      refine ⟨by omega, by omega, ?_⟩
      rw [show i - (s + 1) = i - 1 - s by omega, show j - (s + 1) = j - 1 - s by omega]
      refine hrun.append ?_
      rw [show i - 1 - s + s = i - 1 by omega, show j - 1 - s + s = j - 1 by omega]
      exact sameRun_one hlast
    next => exact ⟨Nat.zero_le _, Nat.zero_le _, SameRun.zero hi hj⟩

end

/-! ## Chains

Scripts, and later the blocks made of them, are lists of things that each take up some places in
both sequences. What it means that they follow one another without a gap is the same for all. -/

/-- A list whose elements follow one another from the first pair of places to the second, each
fitting where it stands. -/
def Chain {β : Type} (span : β → Nat × Nat) (fits : Nat → Nat → β → Prop) :
    Nat → Nat → List β → Nat → Nat → Prop
  | i, j, [], i', j' => i' = i ∧ j' = j
  | i, j, x :: xs, i', j' =>
    fits i j x ∧ Chain span fits (i + (span x).1) (j + (span x).2) xs i' j'

section

variable {β : Type} {span : β → Nat × Nat} {fits fits' : Nat → Nat → β → Prop} {x : β}
  {xs ys : List β} {i' j' i'' j'' : Nat}

@[simp] theorem chain_nil : Chain span fits i j [] i' j' ↔ i' = i ∧ j' = j := Iff.rfl

@[simp] theorem chain_cons : Chain span fits i j (x :: xs) i' j' ↔
    fits i j x ∧ Chain span fits (i + (span x).1) (j + (span x).2) xs i' j' := Iff.rfl

theorem chain_append : Chain span fits i j (xs ++ ys) i'' j'' ↔
    ∃ i' j', Chain span fits i j xs i' j' ∧ Chain span fits i' j' ys i'' j'' := by
  induction xs generalizing i j with
  | nil =>
    constructor
    · intro h
      exact ⟨i, j, ⟨rfl, rfl⟩, h⟩
    · rintro ⟨_, _, ⟨rfl, rfl⟩, h⟩
      exact h
  | cons x xs ih =>
    rw [List.cons_append, chain_cons, ih]
    constructor
    · rintro ⟨hfits, i', j', hxs, hys⟩
      exact ⟨i', j', ⟨hfits, hxs⟩, hys⟩
    · rintro ⟨i', j', ⟨hfits, hxs⟩, hys⟩
      exact ⟨hfits, i', j', hxs, hys⟩

theorem Chain.append (h : Chain span fits i j xs i' j') (h' : Chain span fits i' j' ys i'' j'') :
    Chain span fits i j (xs ++ ys) i'' j'' := chain_append.mpr ⟨i', j', h, h'⟩

theorem chain_singleton (h : fits i j x) :
    Chain span fits i j [x] (i + (span x).1) (j + (span x).2) := ⟨h, rfl, rfl⟩

theorem Chain.end_eq (h : Chain span fits i j xs i' j') :
    i' = i + (xs.map fun x ↦ (span x).1).sum ∧ j' = j + (xs.map fun x ↦ (span x).2).sum := by
  induction xs generalizing i j with
  | nil => exact h
  | cons x xs ih =>
    obtain ⟨hi', hj'⟩ := ih h.2
    rw [List.map_cons, List.map_cons, List.sum_cons, List.sum_cons, ← Nat.add_assoc,
      ← Nat.add_assoc]
    exact ⟨hi', hj'⟩

theorem Chain.mono (himp : ∀ i j x, fits i j x → fits' i j x) (h : Chain span fits i j xs i' j') :
    Chain span fits' i j xs i' j' := by
  induction xs generalizing i j with
  | nil => exact h
  | cons x xs ih => exact ⟨himp i j x h.1, ih h.2⟩

theorem Chain.exists_fits_of_mem (h : Chain span fits i j xs i' j') (hx : x ∈ xs) :
    ∃ a b, fits a b x := by
  induction xs generalizing i j with
  | nil => exact absurd hx List.not_mem_nil
  | cons y xs ih =>
    rcases List.mem_cons.mp hx with rfl | hx
    · exact ⟨i, j, h.1⟩
    · exact ih h.2 hx

/-- What a chain goes on with may be replaced by anything that leads from the same places to the
same places. -/
theorem Chain.replace_tail (h : Chain span fits i j (xs ++ ys) i'' j'') {zs : List β}
    (hys : ∀ i j, Chain span fits i j ys i'' j'' → Chain span fits i j zs i'' j'') :
    Chain span fits i j (xs ++ zs) i'' j'' := by
  obtain ⟨i', j', hxs, htail⟩ := chain_append.mp h
  exact hxs.append (hys i' j' htail)

end

/-! ## Scripts in their places -/

namespace Edit

/-- The places that an edit takes up in both sequences. -/
def span (e : Edit) : Nat × Nat := (e.oldLength, e.newLength)

/-- An edit that is not empty and whose run starts at the given places, as far as it has one in the
sequence. -/
def Fits (old new : Array α) (i j : Nat) (e : Edit) : Prop :=
  0 < e.length ∧
    match e.kind with
    | .equal => e.old = i ∧ e.new = j ∧ SameRun old new i j e.length
    | .delete => e.old = i ∧ i + e.length ≤ old.size ∧ e.new ≤ new.size
    | .insert => e.new = j ∧ j + e.length ≤ new.size

/-- An edit that fits and, if it is an insertion, does not name a later place in the old sequence
than the one where it stands. -/
def FitsBehind (old new : Array α) (i j : Nat) (e : Edit) : Prop :=
  e.Fits old new i j ∧ (e.kind = .insert → e.old ≤ i)

variable {e : Edit}

theorem span_equal (h : e.kind = .equal) : e.span = (e.length, e.length) := by
  simp [span, oldLength, newLength, h]

theorem span_delete (h : e.kind = .delete) : e.span = (e.length, 0) := by
  simp [span, oldLength, newLength, h]

theorem span_insert (h : e.kind = .insert) : e.span = (0, e.length) := by
  simp [span, oldLength, newLength, h]

theorem fits_equal (h : e.kind = .equal) : e.Fits old new i j ↔
    0 < e.length ∧ e.old = i ∧ e.new = j ∧ SameRun old new i j e.length := by
  rw [Fits, h]

theorem fits_delete (h : e.kind = .delete) : e.Fits old new i j ↔
    0 < e.length ∧ e.old = i ∧ i + e.length ≤ old.size ∧ e.new ≤ new.size := by
  rw [Fits, h]

theorem fits_insert (h : e.kind = .insert) : e.Fits old new i j ↔
    0 < e.length ∧ e.new = j ∧ j + e.length ≤ new.size := by
  rw [Fits, h]

end Edit

/-- A script that leads from the first pair of places to the second. -/
def Covers (old new : Array α) : Nat → Nat → List Edit → Nat → Nat → Prop :=
  Chain Edit.span (Edit.Fits old new)

/-- A script that leads from the first pair of places to the second, all insertions naming old
places up to where they stand. -/
def CoversBehind (old new : Array α) : Nat → Nat → List Edit → Nat → Nat → Prop :=
  Chain Edit.span (Edit.FitsBehind old new)

theorem Covers.length_pos_of_mem {script : List Edit} {e : Edit} {i' j' : Nat}
    (h : Covers old new i j script i' j') (he : e ∈ script) : 0 < e.length := by
  obtain ⟨_, _, hfits⟩ := Chain.exists_fits_of_mem h he
  exact hfits.1

theorem CoversBehind.covers {script : List Edit} {i' j' : Nat}
    (h : CoversBehind old new i j script i' j') : Covers old new i j script i' j' :=
  h.mono fun _ _ _ hfits ↦ hfits.1

theorem coversBehind_equal (h : SameRun old new i j n) :
    CoversBehind old new i j (edit? .equal i j n) (i + n) (j + n) := by
  rw [edit?]
  split
  next hn =>
    subst hn
    exact ⟨rfl, rfl⟩
  next hn => exact chain_singleton ⟨⟨Nat.pos_of_ne_zero hn, rfl, rfl, h⟩, nofun⟩

theorem coversBehind_delete (hi : i + n ≤ old.size) (hj : j ≤ new.size) :
    CoversBehind old new i j (edit? .delete i j n) (i + n) j := by
  rw [edit?]
  split
  next hn =>
    subst hn
    exact ⟨rfl, rfl⟩
  next hn => exact chain_singleton ⟨⟨Nat.pos_of_ne_zero hn, rfl, hi, hj⟩, nofun⟩

theorem coversBehind_insert {k : Nat} (hk : k ≤ i) (hj : j + n ≤ new.size) :
    CoversBehind old new i j (edit? .insert k j n) i (j + n) := by
  rw [edit?]
  split
  next hn =>
    subst hn
    exact ⟨rfl, rfl⟩
  next hn => exact chain_singleton ⟨⟨Nat.pos_of_ne_zero hn, rfl, hj⟩, fun _ ↦ hk⟩

/-! ## The search -/

namespace Window

/-- A window that lies in both sequences. -/
structure Inside (w : Window) (old new : Array α) : Prop where
  old_le : w.old + w.oldLength ≤ old.size
  new_le : w.new + w.newLength ≤ new.size

/-- What trimming a window leaves of it, and what it takes away. -/
structure Trimmed (w : Window) (old new : Array α) (front : Nat) (core : Window) (back : Nat) :
    Prop where
  /-- The lines taken from the start are equal. -/
  front_same : SameRun old new w.old w.new front
  /-- The lines taken from the end are equal. -/
  back_same : SameRun old new (core.old + core.oldLength) (core.new + core.newLength) back
  /-- The rest starts after the lines taken from the start. -/
  old_eq : core.old = w.old + front
  new_eq : core.new = w.new + front
  /-- The rest ends before the lines taken from the end. -/
  old_end : core.old + core.oldLength + back = w.old + w.oldLength
  new_end : core.new + core.newLength + back = w.new + w.newLength

variable {w core : Window} {front back : Nat}

theorem Trimmed.inside (h : w.Trimmed old new front core back) : core.Inside old new where
  old_le := by have := h.back_same.old_le; omega
  new_le := by have := h.back_same.new_le; omega

/-- Equal runs at both ends make a script of the whole window out of one of the rest. -/
theorem Trimmed.motive_ends {motive : Nat → Nat → List Edit → Nat → Nat → Prop}
    (h : w.Trimmed old new front core back)
    (happend : ∀ {i j xs a b ys i' j'}, motive i j xs a b → motive a b ys i' j' →
      motive i j (xs ++ ys) i' j')
    (hequal : ∀ {i j n}, SameRun old new i j n →
      motive i j (edit? .equal i j n) (i + n) (j + n)) {inner : List Edit}
    (hinner : motive core.old core.new inner (core.old + core.oldLength)
      (core.new + core.newLength)) :
    motive w.old w.new
      (edit? .equal w.old w.new front ++ inner ++
        edit? .equal (core.old + core.oldLength) (core.new + core.newLength) back)
      (w.old + w.oldLength) (w.new + w.newLength) := by
  have hfront := hequal h.front_same
  rw [← h.old_eq, ← h.new_eq] at hfront
  have hback := hequal h.back_same
  rw [h.old_end, h.new_end] at hback
  exact happend (happend hfront hinner) hback

theorem whole_eq_replace (hne : ¬(w.oldLength = 0 ∨ w.newLength = 0)) :
    [⟨.delete, w.old, w.new, w.oldLength⟩, ⟨.insert, w.old, w.new, w.newLength⟩] =
      edit? .delete w.old w.new w.oldLength ++ edit? .insert w.old w.new w.newLength := by
  rw [not_or] at hne
  rw [edit?, if_neg hne.1, edit?, if_neg hne.2]
  rfl

theorem bounds_of_divides {x y : Nat} (h : w.divides x y = true) :
    (w.old ≤ x ∧ x ≤ w.old + w.oldLength) ∧ w.new ≤ y ∧ y ≤ w.new + w.newLength := by
  simp only [divides, Bool.and_eq_true, decide_eq_true_eq] at h
  exact ⟨⟨h.1.1.1.1.1, h.1.1.1.1.2⟩, h.1.1.1.2, h.1.1.2⟩

end Window

section

variable [BEq α] [LawfulBEq α]

theorem Window.Inside.trimmed {w : Window} (h : w.Inside old new) :
    w.Trimmed old new (w.trim old new).1 (w.trim old new).2.1 (w.trim old new).2.2 := by
  have hold := h.old_le
  have hnew := h.new_le
  set front := commonPrefix old new w.old w.new (min w.oldLength w.newLength) with hfront
  have hfrontLe : front ≤ min w.oldLength w.newLength := commonPrefix_le ..
  set limit := min (w.oldLength - front) (w.newLength - front) with hlimit
  set back := commonSuffix old new (w.old + w.oldLength) (w.new + w.newLength) limit with hback
  have hbackLe : back ≤ limit := commonSuffix_le ..
  have htrim : w.trim old new = (front, ⟨w.old + front, w.oldLength - front - back,
      w.new + front, w.newLength - front - back⟩, back) := rfl
  obtain ⟨-, -, hsuffix⟩ := sameRun_commonSuffix limit hold hnew
  rw [← hback] at hsuffix
  rw [htrim]
  refine ⟨sameRun_commonPrefix _ (by omega) (by omega), ?_, rfl, rfl, ?_, ?_⟩
  · rw [show w.old + front + (w.oldLength - front - back) = w.old + w.oldLength - back by omega,
      show w.new + front + (w.newLength - front - back) = w.new + w.newLength - back by omega]
    exact hsuffix
  · show w.old + front + (w.oldLength - front - back) + back = w.old + w.oldLength
    omega
  · show w.new + front + (w.newLength - front - back) + back = w.new + w.newLength
    omega

section

variable {motive : Nat → Nat → List Edit → Nat → Nat → Prop}

/-- **The search puts its script together from equal runs and replacements.** The tables decide
where a window is divided, never whether the parts fit together. -/
theorem search_induction
    (happend : ∀ {i j xs a b ys i' j'}, motive i j xs a b → motive a b ys i' j' →
      motive i j (xs ++ ys) i' j')
    (hequal : ∀ {i j n}, SameRun old new i j n →
      motive i j (edit? .equal i j n) (i + n) (j + n))
    (hreplace : ∀ {i j m n}, i + m ≤ old.size → j + n ≤ new.size →
      motive i j (edit? .delete i j m ++ edit? .insert i j n) (i + m) (j + n))
    (w : Window) (f : Frontiers) (h : w.Inside old new) :
    motive w.old w.new (search old new w f).2 (w.old + w.oldLength) (w.new + w.newLength) := by
  fun_induction search old new w f with
  | case1 w f front core back ends hempty =>
    have hinside := h.trimmed.inside
    exact h.trimmed.motive_ends happend hequal (hreplace hinside.old_le hinside.new_le)
  | case2 w f front core back ends hne f₁ x y hmiddle hdivides f₂ first hfirst f₃ second hsecond
      ihFirst ihSecond =>
    -- The point lies in the window, so that the parts before and after it make it up.
    obtain ⟨⟨hx, hx'⟩, hy, hy'⟩ := Window.bounds_of_divides hdivides
    have hinside := h.trimmed.inside
    have hold := hinside.old_le
    have hnew := hinside.new_le
    have hmotiveFirst := ihFirst ⟨by simp only [core] at *; omega, by simp only [core] at *; omega⟩
    have hmotiveSecond :=
      ihSecond ⟨by simp only [core] at *; omega, by simp only [core] at *; omega⟩
    rw [hfirst] at hmotiveFirst
    rw [hsecond] at hmotiveSecond
    simp only [Nat.add_sub_cancel' hx, Nat.add_sub_cancel' hy] at hmotiveFirst
    simp only [Nat.add_sub_cancel' hx', Nat.add_sub_cancel' hy'] at hmotiveSecond
    exact h.trimmed.motive_ends happend hequal (happend hmotiveFirst hmotiveSecond)
  | case3 w f front core back ends hne f₁ x y hmiddle hdivides =>
    have hinside := h.trimmed.inside
    refine h.trimmed.motive_ends happend hequal ?_
    rw [Window.whole_eq_replace hne]
    exact hreplace hinside.old_le hinside.new_le
  | case4 w f front core back ends hne f₁ hmiddle =>
    have hinside := h.trimmed.inside
    refine h.trimmed.motive_ends happend hequal ?_
    rw [Window.whole_eq_replace hne]
    exact hreplace hinside.old_le hinside.new_le

theorem rawScript_induction (old new : Array α)
    (happend : ∀ {i j xs a b ys i' j'}, motive i j xs a b → motive a b ys i' j' →
      motive i j (xs ++ ys) i' j')
    (hequal : ∀ {i j n}, SameRun old new i j n →
      motive i j (edit? .equal i j n) (i + n) (j + n))
    (hreplace : ∀ {i j m n}, i + m ≤ old.size → j + n ≤ new.size →
      motive i j (edit? .delete i j m ++ edit? .insert i j n) (i + m) (j + n)) :
    motive 0 0 (rawScript old new) old.size new.size := by
  have hinside : Window.Inside ⟨0, old.size, 0, new.size⟩ old new :=
    ⟨Nat.le_of_eq (Nat.zero_add _), Nat.le_of_eq (Nat.zero_add _)⟩
  have hsearch := search_induction happend hequal hreplace _
    ⟨.start ((old.size + new.size + 1) / 2 + 1), .start ((old.size + new.size + 1) / 2 + 1)⟩
    hinside
  rw [Nat.zero_add, Nat.zero_add] at hsearch
  exact hsearch

end

/-- **The search covers both sequences.** -/
theorem coversBehind_rawScript (old new : Array α) :
    CoversBehind old new 0 0 (rawScript old new) old.size new.size :=
  rawScript_induction old new Chain.append coversBehind_equal fun hi hj ↦
    (coversBehind_delete hi (Nat.le_of_add_right_le hj)).append
      (coversBehind_insert (Nat.le_add_right _ _) hj)

end

end Redline.Diff
