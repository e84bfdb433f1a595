import Redline.Text.Utf8

/-!
# Cut texts

A text is cut to a number of bytes by walking back, byte by byte, from the limit to the last
boundary between characters. No boundary within the limit lies behind the one that is found, and
since a character takes up at most four bytes, the walk ends after three steps at most.

So what is left of a text is its longest beginning of whole characters within the limit, and it
falls short of the limit by at most three bytes.
-/

namespace Redline.Text

variable {s t : String} {n limit : Nat}

/-! ## Walking back -/

theorem boundaryUpTo_le (s : String) (n : Nat) : (boundaryUpTo s n).offset.byteIdx ≤ n := by
  induction n with
  | zero => exact Nat.le_refl 0
  | succ n ih =>
    rw [boundaryUpTo]
    split
    · exact Nat.le_refl (n + 1)
    · exact Nat.le_succ_of_le ih

theorem le_boundaryUpTo {p : s.Pos} (h : p.offset.byteIdx ≤ n) :
    p.offset.byteIdx ≤ (boundaryUpTo s n).offset.byteIdx := by
  induction n with
  | zero => exact h
  | succ n ih =>
    rw [boundaryUpTo]
    split
    next => exact h
    next hinside =>
      have hne : p.offset.byteIdx ≠ n + 1 := by
        intro heq
        have hoffset : p.offset = ⟨n + 1⟩ := String.Pos.Raw.ext heq
        exact hinside (hoffset ▸ p.isValid)
      exact ih (Nat.le_of_lt_succ (Nat.lt_of_le_of_ne h hne))

/-- Behind the boundary that is found the next one lies beyond the limit, and it is the end of one
character. -/
theorem lt_boundaryUpTo_add_four (h : n ≤ s.utf8ByteSize) :
    n < (boundaryUpTo s n).offset.byteIdx + 4 := by
  by_cases hend : boundaryUpTo s n = s.endPos
  · have hsize : (boundaryUpTo s n).offset.byteIdx = s.utf8ByteSize := by
      rw [hend, String.offset_endPos, String.byteIdx_rawEndPos]
    omega
  · have hnext := String.Pos.byteIdx_offset_next (boundaryUpTo s n) hend
    have hsize := ((boundaryUpTo s n).get hend).utf8Size_le_four
    have hpos := ((boundaryUpTo s n).get hend).utf8Size_pos
    have hbeyond : n < ((boundaryUpTo s n).next hend).offset.byteIdx := by
      refine Nat.not_le.mp fun hle ↦ ?_
      have hback := le_boundaryUpTo hle
      omega
    omega

/-! ## The longest beginning -/

/-- The longest beginning of whole characters that a text has within a number of bytes. -/
structure LongestWithin (limit : Nat) (s t : String) : Prop where
  isPrefix : t.toList <+: s.toList
  size_le : t.utf8ByteSize ≤ limit
  /-- Every other such beginning is a beginning of it. -/
  longest : ∀ u : String, u.toList <+: s.toList → u.utf8ByteSize ≤ limit → u.toList <+: t.toList

theorem prefix_iff_exists_append : t.toList <+: s.toList ↔ ∃ rest, s = t ++ rest := by
  constructor
  · rintro ⟨rest, hrest⟩
    refine ⟨String.ofList rest, ?_⟩
    rw [← String.toList_inj, String.toList_append, String.toList_ofList, hrest]
  · rintro ⟨rest, rfl⟩
    rw [String.toList_append]
    exact List.prefix_append _ _

theorem exists_pos_of_prefix (h : t.toList <+: s.toList) :
    ∃ p : s.Pos, p.offset.byteIdx = t.utf8ByteSize := by
  obtain ⟨rest, hrest⟩ := prefix_iff_exists_append.mp h
  exact ⟨⟨t.rawEndPos, String.Pos.Raw.isValid_iff_exists_append.mpr ⟨t, rest, hrest, rfl⟩⟩, rfl⟩

theorem prefix_of_utf8ByteSize_le {u : String} (ht : t.toList <+: s.toList)
    (hu : u.toList <+: s.toList) (h : u.utf8ByteSize ≤ t.utf8ByteSize) :
    u.toList <+: t.toList := by
  rcases List.prefix_or_prefix_of_prefix hu ht with hfront | hfront
  · exact hfront
  · obtain ⟨rest, rfl⟩ := prefix_iff_exists_append.mp hfront
    rw [String.utf8ByteSize_append] at h
    have hrest : rest = "" := String.utf8ByteSize_eq_zero_iff.mp (by omega)
    have happend : (t ++ rest).toList = t.toList := by rw [hrest, String.append_empty]
    exact happend ▸ List.prefix_rfl

theorem utf8ByteSize_sliceTo (p : s.Pos) : (s.sliceTo p).copy.utf8ByteSize = p.offset.byteIdx := by
  rw [p.splits.offset_eq_rawEndPos, String.byteIdx_rawEndPos]

theorem longestWithin_sliceTo (s : String) (limit : Nat) :
    LongestWithin limit s (s.sliceTo (boundaryUpTo s limit)).copy := by
  have hfront := prefix_iff_exists_append.mpr ⟨_, (boundaryUpTo s limit).splits.eq_append⟩
  refine ⟨hfront, ?_, fun u hu hlimit ↦ ?_⟩
  · rw [utf8ByteSize_sliceTo]
    exact boundaryUpTo_le s limit
  · obtain ⟨p, hp⟩ := exists_pos_of_prefix hu
    refine prefix_of_utf8ByteSize_le hfront hu ?_
    rw [utf8ByteSize_sliceTo, ← hp]
    exact le_boundaryUpTo (Nat.le_trans (Nat.le_of_eq hp) hlimit)

/-- **A text is cut behind its longest beginning within the limit.** A text that has no more bytes
than the limit stays as it is. Of any other text the walk back from the limit passes only bytes
inside a character, three at most, and what is marked as cut is the text up to there, which is its
longest beginning of whole characters within the limit. -/
theorem truncateToBytes_longest (limit : Nat) (s : String) :
    (s.utf8ByteSize ≤ limit → truncateToBytes limit s = s) ∧
    (limit < s.utf8ByteSize → ∃ t rest, s = t ++ rest ∧
      truncateToBytes limit s = t ++ " [truncated]" ∧ LongestWithin limit s t ∧
      limit ≤ t.utf8ByteSize + 3 ∧
      t.utf8ByteSize = (boundaryUpTo s limit).offset.byteIdx ∧
      ∀ n, t.utf8ByteSize < n → n ≤ limit → ¬String.Pos.Raw.IsValid s ⟨n⟩) := by
  refine ⟨fun hfits ↦ if_pos hfits, fun hlong ↦ ?_⟩
  have hsize := utf8ByteSize_sliceTo (boundaryUpTo s limit)
  refine ⟨_, _, (boundaryUpTo s limit).splits.eq_append, if_neg (Nat.not_le.mpr hlong),
    longestWithin_sliceTo s limit, ?_, hsize, fun n hbehind hn hboundary ↦ ?_⟩
  · have hshort := lt_boundaryUpTo_add_four (Nat.le_of_lt hlong)
    omega
  · have hback : n ≤ (boundaryUpTo s limit).offset.byteIdx :=
      le_boundaryUpTo (p := ⟨⟨n⟩, hboundary⟩) hn
    omega

/-- The limit lies in the second of three characters of two bytes. -/
example : truncateToBytes 3 "ééé" = "é [truncated]" := by decide +kernel

end Redline.Text
