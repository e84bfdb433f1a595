import Mathlib.Data.List.DropRight
import Redline.Text.Blank

/-!
# Trimmed texts

Cutting off the white space around a text leaves nothing exactly if the text is blank, and what it
leaves has none to cut off. So a list of names that was cleaned up once, where blank names are
dropped and the others trimmed, is not changed when it is cleaned up again.
-/

namespace Redline.Text

variable {cs : List Char} {s t : String} {names : List String}

/-! ## What stays when an end is dropped -/

theorem dropWhile_eq_self_iff_head? {p : Char → Bool} :
    cs.dropWhile p = cs ↔ ∀ c ∈ cs.head?, p c = false := by
  cases cs with
  | nil => exact iff_of_true rfl nofun
  | cons c cs =>
    rw [List.dropWhile_eq_self_iff]
    simp

theorem rdropWhile_eq_self_iff_getLast? {p : Char → Bool} :
    cs.rdropWhile p = cs ↔ ∀ c ∈ cs.getLast?, p c = false := by
  rw [List.rdropWhile, List.reverse_eq_iff, dropWhile_eq_self_iff_head?, List.head?_reverse]

/-! ## Trimming -/

theorem trimChars_sublist (cs : List Char) : (trimChars cs).Sublist cs := by
  have hleft : (trimLeft cs).Sublist cs := List.dropWhile_sublist _
  have hright : (trimRight (trimLeft cs)).Sublist (trimLeft cs) := by
    have hdrop := (List.dropWhile_sublist (l := (trimLeft cs).reverse) isBlank).reverse
    rwa [List.reverse_reverse] at hdrop
  exact hright.trans hleft

/-- What is left begins and ends without white space, so nothing more is cut off. -/
@[simp] theorem trimChars_trimChars (cs : List Char) : trimChars (trimChars cs) = trimChars cs := by
  have hleft : trimLeft (trimLeft cs) = trimLeft cs := List.dropWhile_idempotent ..
  have hright : trimRight (trimRight (trimLeft cs)) = trimRight (trimLeft cs) :=
    List.rdropWhile_idempotent ..
  have hfront : trimRight (trimLeft cs) <+: trimLeft cs := List.rdropWhile_prefix ..
  have hkept : trimLeft (trimRight (trimLeft cs)) = trimRight (trimLeft cs) := by
    refine List.dropWhile_eq_self_iff.mpr fun hlength ↦ ?_
    rw [hfront.getElem hlength]
    exact List.dropWhile_eq_self_iff.mp hleft _
  rw [trimChars, trimChars, hkept, hright]

theorem trimChars_eq_nil_iff : trimChars cs = [] ↔ cs.all isBlank = true := by
  rw [List.all_eq_true]
  constructor
  · intro h
    have hblank : trimLeft (trimLeft cs) = [] :=
      List.dropWhile_eq_nil_iff.mpr (List.rdropWhile_eq_nil_iff.mp h)
    rw [trimLeft, trimLeft, List.dropWhile_idempotent] at hblank
    exact List.dropWhile_eq_nil_iff.mp hblank
  · intro h
    have hleft : trimLeft cs = [] := List.dropWhile_eq_nil_iff.mpr h
    rw [trimChars, hleft]
    rfl

/-- Nothing is cut off a text that has no white space at either end. -/
theorem trimChars_eq_self_iff : trimChars cs = cs ↔
    (∀ c ∈ cs.head?, isBlank c = false) ∧ ∀ c ∈ cs.getLast?, isBlank c = false := by
  have hleft : trimLeft cs = cs ↔ ∀ c ∈ cs.head?, isBlank c = false :=
    dropWhile_eq_self_iff_head?
  have hright : trimRight cs = cs ↔ ∀ c ∈ cs.getLast?, isBlank c = false :=
    rdropWhile_eq_self_iff_getLast?
  rw [← hleft, ← hright]
  constructor
  · intro h
    -- What is cut off in front would be missing in the end.
    have hfront : trimLeft cs = cs := by
      have hsublist : (trimLeft cs).Sublist cs := List.dropWhile_sublist _
      refine hsublist.eq_of_length_le ?_
      calc cs.length = (trimChars cs).length := by rw [h]
        _ ≤ (trimLeft cs).length := (List.rdropWhile_prefix isBlank _).length_le
    exact ⟨hfront, by rwa [trimChars, hfront] at h⟩
  · rintro ⟨hfront, hback⟩
    rw [trimChars, hfront, hback]

theorem trim_eq_empty_iff : trim s = "" ↔ isBlankText s = true := by
  rw [trim, ← String.toList_inj, String.toList_ofList]
  exact trimChars_eq_nil_iff

/-- A text has no white space around it. -/
def Trimmed (p : String) : Prop := trim p = p

instance (p : String) : Decidable (Trimmed p) := inferInstanceAs (Decidable (trim p = p))

theorem trimmed_iff : Trimmed s ↔ trimChars s.toList = s.toList := by
  rw [Trimmed, trim, ← String.toList_inj, String.toList_ofList]

theorem trimmed_trim (s : String) : Trimmed (trim s) := by
  rw [trimmed_iff, trim, String.toList_ofList, trimChars_trimChars]

/-! ## Cleaning up -/

/-- A text that is not blank and has no white space around it. -/
structure Tidy (s : String) : Prop where
  trimmed : Trimmed s
  notBlank : isBlankText s = false

theorem trimmed?_eq_some_iff : trimmed? s = some t ↔ isBlankText s = false ∧ trim s = t := by
  rw [trimmed?]
  cases isBlankText s <;> simp

theorem tidy_trim (h : isBlankText s = false) : Tidy (trim s) where
  trimmed := trimmed_trim s
  notBlank := by
    rw [Bool.eq_false_iff, ne_eq, ← trim_eq_empty_iff, trimmed_trim s, trim_eq_empty_iff, h]
    exact Bool.false_ne_true

theorem tidy_of_trimmed? (h : trimmed? s = some t) : Tidy t := by
  obtain ⟨hnotBlank, rfl⟩ := trimmed?_eq_some_iff.mp h
  exact tidy_trim hnotBlank

theorem Tidy.trimmed?_eq (h : Tidy s) : trimmed? s = some s :=
  trimmed?_eq_some_iff.mpr ⟨h.notBlank, h.trimmed⟩

theorem tidy_of_mem_filterMap (h : t ∈ names.filterMap trimmed?) : Tidy t := by
  obtain ⟨s, -, hs⟩ := List.mem_filterMap.mp h
  exact tidy_of_trimmed? hs

theorem filterMap_trimmed?_of_tidy (h : ∀ s ∈ names, Tidy s) :
    names.filterMap trimmed? = names := by
  induction names with
  | nil => rfl
  | cons s names ih =>
    rw [List.filterMap_cons_some (h s List.mem_cons_self).trimmed?_eq,
      ih fun t ht ↦ h t (List.mem_cons_of_mem s ht)]

/-- Dropping the blank texts and trimming the others is trimming all and dropping the empty ones. -/
theorem filterMap_trimmed? (names : List String) :
    names.filterMap trimmed? = (names.map trim).filter (· ≠ "") := by
  induction names with
  | nil => rfl
  | cons s names ih =>
    rw [List.map_cons]
    by_cases hblank : isBlankText s = true
    · have hnone : trimmed? s = none := if_pos hblank
      have hempty := trim_eq_empty_iff.mpr hblank
      rw [List.filterMap_cons_none hnone, ih, List.filter_cons_of_neg (by simp [hempty])]
    · have hsome : trimmed? s = some (trim s) := if_neg hblank
      have hnonempty : trim s ≠ "" := fun hempty ↦ hblank (trim_eq_empty_iff.mp hempty)
      rw [List.filterMap_cons_some hsome, ih, List.filter_cons_of_pos (by simp [hnonempty])]

end Redline.Text
