import Redline.Patch.Header
import Redline.Proofs.Text.Numeral
import Redline.Proofs.Text.Split

/-!
# Headers read back

A header is read as the ranges that were written into it, exactly as long as its numbers are 64-bit
words. Empty ranges make no exception: what is shown for them is the line before, and reading takes
that into account. Other spellings can be read as well, with a plus sign or leading zeros, but only
as headers that can also be read in the spelling in which they are written.
-/

namespace Redline.Patch

open Redline.Text

/-! ## Ranges -/

namespace LineRange

/-- The numbers of a range are 64-bit words, also the start as it is shown. -/
def FitsWord (r : LineRange) : Prop := r.shownStart < wordBound ∧ r.length < wordBound

/-- Word-sized numbers with starts counted from zero, where the start of a range that is not empty
can still be counted from one. -/
structure WordSized (r : LineRange) : Prop where
  start_lt : r.start < wordBound
  length_lt : r.length < wordBound
  /-- The number of the first line is a word, if there is one. -/
  succ_lt : r.length ≠ 0 → r.start + 1 < wordBound

theorem fitsWord_iff {r : LineRange} : r.FitsWord ↔ r.WordSized := by
  rw [FitsWord, shownStart]
  by_cases hempty : r.length = 0
  · rw [if_pos hempty]
    exact ⟨fun ⟨hstart, hlength⟩ ↦ ⟨hstart, hlength, fun hne ↦ absurd hempty hne⟩,
      fun h ↦ ⟨h.start_lt, h.length_lt⟩⟩
  · rw [if_neg hempty]
    exact ⟨fun ⟨hstart, hlength⟩ ↦ ⟨Nat.lt_of_succ_lt hstart, hlength, fun _ ↦ hstart⟩,
      fun h ↦ ⟨h.succ_lt hempty, h.length_lt⟩⟩

theorem ofShown?_shownStart (r : LineRange) : ofShown? r.shownStart r.length = some r := by
  obtain ⟨start, length⟩ := r
  by_cases h : length = 0
  · subst h
    rfl
  · simp only [shownStart, ofShown?, if_neg h, if_neg (Nat.succ_ne_zero start),
      Nat.add_sub_cancel]

theorem read?_write {r : LineRange} (h : r.FitsWord) : read? r.write = some r := by
  have hcomma : ∀ c ∈ Nat.toDigits 10 r.shownStart, (c == ',') = false := by
    intro c hc
    rw [beq_eq_false_iff_ne]
    rintro rfl
    exact not_mem_decimal (by decide) hc
  rw [read?, write, cutFirst?_append _ hcomma (by decide)]
  simp only [readNumeral_toDigits h.1, readNumeral_toDigits h.2]
  exact ofShown?_shownStart r

theorem shown_of_ofShown? {start length : Nat} {r : LineRange}
    (h : ofShown? start length = some r) : r.shownStart = start ∧ r.length = length := by
  rw [ofShown?] at h
  split at h
  next hempty =>
    obtain rfl := Option.some.inj h
    exact ⟨if_pos rfl, hempty.symm⟩
  next hlength =>
    split at h
    next => exact absurd h nofun
    next hstart =>
      obtain rfl := Option.some.inj h
      exact ⟨(if_neg hlength).trans (Nat.sub_add_cancel (Nat.pos_of_ne_zero hstart)), rfl⟩

theorem fitsWord_of_read? {cs : List Char} {r : LineRange} (h : read? cs = some r) :
    r.FitsWord := by
  have hbound : 0 < wordBound := by decide
  rw [read?] at h
  split at h
  next => exact absurd h nofun
  next =>
    split at h
    next hstart hlength =>
      obtain ⟨hshown, hlines⟩ := shown_of_ofShown? h
      rw [FitsWord, hshown, hlines]
      exact ⟨lt_of_readNumeral hbound hstart, lt_of_readNumeral hbound hlength⟩
    next => exact absurd h nofun

theorem blank_not_mem_write (r : LineRange) : ' ' ∉ r.write := by
  simp only [write, List.mem_append, List.mem_cons, not_or]
  exact ⟨not_mem_decimal (by decide), by decide, not_mem_decimal (by decide)⟩

end LineRange

/-! ## Headers -/

namespace Header

def FitsWord (h : Header) : Prop := h.old.FitsWord ∧ h.new.FitsWord

theorem cutAtPlus?_append {before : List Char} (after : List Char) (h : ' ' ∉ before) :
    cutAtPlus? (before ++ ' ' :: '+' :: after) = some (before, after) := by
  induction before with
  | nil => rfl
  | cons c before ih =>
    have hc : c ≠ ' ' := fun hc ↦ h (hc ▸ List.mem_cons_self)
    rw [List.cons_append, cutAtPlus?, if_neg fun hcut ↦ hc hcut.1,
      ih fun hmem ↦ h (List.mem_cons_of_mem c hmem)]
    rfl

theorem read?_write {h : Header} (hfits : h.FitsWord) : read? h.write = some h := by
  have hbody : h.write = ['@', '@', ' ', '-'] ++
      ((h.old.write ++ ' ' :: '+' :: h.new.write) ++ [' ', '@', '@']) := by
    simp only [write, List.append_assoc, List.cons_append, List.nil_append]
  simp only [read?, hbody, dropBeginning?_append, dropEnding?_append, Option.bind_eq_bind,
    Option.bind_some, cutAtPlus?_append _ h.old.blank_not_mem_write,
    LineRange.read?_write hfits.1, LineRange.read?_write hfits.2]

theorem read?_render {h : Header} (hfits : h.FitsWord) : read? h.render.toList = some h := by
  rw [render, String.toList_ofList, read?_write hfits]

theorem fitsWord_of_read? {cs : List Char} {h : Header} (hread : read? cs = some h) :
    h.FitsWord := by
  rw [read?] at hread
  obtain ⟨body, -, hread⟩ := Option.bind_eq_some_iff.mp hread
  obtain ⟨body', -, hread⟩ := Option.bind_eq_some_iff.mp hread
  obtain ⟨⟨before, after⟩, -, hread⟩ := Option.bind_eq_some_iff.mp hread
  obtain ⟨old, hold, hread⟩ := Option.bind_eq_some_iff.mp hread
  obtain ⟨new, hnew, hread⟩ := Option.bind_eq_some_iff.mp hread
  obtain rfl := Option.some.inj hread
  exact ⟨LineRange.fitsWord_of_read? hold, LineRange.fitsWord_of_read? hnew⟩

/-- **A header reads back if and only if its numbers are words**, starts counted from one as well
where a range is not empty. So does every header that was read, in whatever spelling. -/
theorem read?_render_iff (h : Header) :
    (read? h.render.toList = some h ↔ h.old.WordSized ∧ h.new.WordSized) ∧
      ∀ cs, read? cs = some h → read? h.render.toList = some h := by
  refine ⟨?_, fun cs hread ↦ read?_render (fitsWord_of_read? hread)⟩
  rw [← LineRange.fitsWord_iff, ← LineRange.fitsWord_iff]
  exact ⟨fitsWord_of_read?, read?_render⟩

/-- An empty range names the line before it, also in front of the first line. -/
example : Header.render ⟨⟨0, 0⟩, ⟨0, 3⟩⟩ = "@@ -0,0 +1,3 @@" ∧
    read? "@@ -00,0 +1,+3 @@".toList = some ⟨⟨0, 0⟩, ⟨0, 3⟩⟩ := by decide

end Header

end Redline.Patch
