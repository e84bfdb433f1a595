import Redline.Proofs.Patch.Replay

/-!
# The ends of patch lines

A line of a patch below the headers is one line of text, and it stands in a place of each text that
it belongs to: so many lines behind the start of its hunk as the hunk shows of that text before it.
It has the terminator that the text has there. So it is without one exactly if it is the last line
of a text that does not end with a terminator, and of the lines that a patch shows of either text at
most one is.
-/

namespace Redline

open Redline.Text

theorem LineKind.inBase_or_inProposed {kind : LineKind} (h : kind ≠ .header) :
    kind.inBase = true ∨ kind.inProposed = true := by
  cases kind with
  | header => exact absurd rfl h
  | added => exact .inr rfl
  | removed => exact .inl rfl
  | context => exact .inl rfl

namespace PatchLine

variable {l : PatchLine} {s : String} {i : Nat}

/-! ## Lines of a text -/

/-- One line of text: what is displayed holds no end of line, and nothing but a terminator is left
out of it. -/
structure Single (l : PatchLine) : Prop where
  /-- The text is what is displayed, and then a terminator or nothing. -/
  text_eq : ∃ terminator, Terminator terminator ∧
    l.text.toList = l.displayText.toList ++ terminator
  newline_notMem : '\n' ∉ l.displayText.toList
  return_notMem : '\r' ∉ l.displayText.toList

/-- The line in a place of a text, with the terminator that it has there. -/
structure EndsAs (l : PatchLine) (s : String) (i : Nat) : Prop where
  /-- The text has the line in this place. -/
  text_eq : (linesOf s)[i]? = some l.text
  /-- The line is without a terminator exactly if the text ends with it, and without one. -/
  missing_iff : l.isMissingNewline = true ↔
    i + 1 = (linesOf s).size ∧ isTerminated s.toList = false

theorem isMissingNewline_eq (h : l.kind ≠ .header) :
    l.isMissingNewline = !isTerminated l.text.toList := by
  rw [isMissingNewline, bne_iff_ne.mpr h, Bool.true_and]

theorem endsAs_of_getElem? (hkind : l.kind ≠ .header) (h : (linesOf s)[i]? = some l.text) :
    l.EndsAs s i where
  text_eq := h
  missing_iff := by
    rw [isMissingNewline_eq hkind, Bool.not_eq_true', isTerminated_eq_false_iff h]

theorem EndsAs.single (h : l.EndsAs s i) : l.Single := by
  have hmem : l.text ∈ (linesOf s).toList :=
    Array.mem_toList_iff.mpr (Array.mem_of_getElem? h.text_eq)
  obtain ⟨line, hline, htext⟩ := List.mem_map.mp hmem
  obtain ⟨terminator, heq, hterminator, hnewline, hreturn⟩ := exists_terminator s.toList line hline
  have hdisplay : l.displayText.toList = dropTerminator line := by
    rw [displayText, ← htext, String.toList_ofList, String.toList_ofList]
  rw [← hdisplay] at heq hnewline hreturn
  exact ⟨⟨terminator, hterminator, by rw [← htext, String.toList_ofList, ← heq]⟩,
    hnewline, hreturn⟩

/-- A line below a header, in its place in every text that it belongs to. -/
structure Placed (base proposed : String) (i j : Nat) (l : PatchLine) : Prop where
  not_header : l.kind ≠ .header
  single : l.Single
  /-- A kept or removed line ends as in the base text. -/
  base : l.kind.inBase = true → l.EndsAs base i
  /-- A kept or added line ends as in the proposed text. -/
  proposed : l.kind.inProposed = true → l.EndsAs proposed j

end PatchLine

namespace Patch

open Redline.Diff

variable {source old new : Array String} {kinds : LineKind → Bool} {i j n : Nat}
  {before after : List PatchLine} {l : PatchLine} {h : Hunk} {hs : List Hunk}

/-! ## The places of lines -/

theorem getElem?_of_shown (hshown : shown kinds (before ++ l :: after) = linesFrom source i n)
    (hkind : kinds l.kind = true) : source[i + (shown kinds before).length]? = some l.text := by
  have hline : (linesFrom source i n)[(shown kinds before).length]? = some l.text := by
    rw [← hshown, shown_append, shown_cons, if_pos hkind,
      List.getElem?_append_right (Nat.le_refl _), Nat.sub_self]
    rfl
  rw [linesFrom, Array.getElem?_toList, Array.getElem?_extract,
    Option.ite_none_right_eq_some] at hline
  exact hline.2

theorem Hunk.Shows.placed {base proposed : String}
    (hshows : h.Shows (linesOf base) (linesOf proposed))
    (hbody : h.body (linesOf base) (linesOf proposed) = before ++ l :: after) :
    l.Placed base proposed (h.old + (shown LineKind.inBase before).length)
      (h.new + (shown LineKind.inProposed before).length) := by
  have hmem : l ∈ h.body (linesOf base) (linesOf proposed) :=
    hbody ▸ List.mem_append_right _ List.mem_cons_self
  have hheader := kind_of_mem_body hmem
  obtain ⟨hbase, hproposed, -, -⟩ := hshows
  rw [hbody] at hbase hproposed
  have hendsBase := fun hkind ↦
    PatchLine.endsAs_of_getElem? hheader (getElem?_of_shown hbase hkind)
  have hendsProposed := fun hkind ↦
    PatchLine.endsAs_of_getElem? hheader (getElem?_of_shown hproposed hkind)
  refine ⟨hheader, ?_, hendsBase, hendsProposed⟩
  rcases LineKind.inBase_or_inProposed hheader with hkind | hkind
  · exact (hendsBase hkind).single
  · exact (hendsProposed hkind).single

/-! ## The lines of a text that a patch shows -/

theorem shown_hunkLines (hheader : kinds .header = false) (hne : h.blocks ≠ []) :
    shown kinds (hunkLines old new h.blocks) = shown kinds (h.body old new) := by
  rw [Hunk.hunkLines_eq_lines hne, ShownHunk.lines, shown_cons, hheader]
  rfl

/-- Hunks that are laid out show lines of both texts in their order. -/
theorem LaidOut.sublist (hlaid : LaidOut old new i j hs) (hne : ∀ h ∈ hs, h.blocks ≠ []) :
    (shown LineKind.inBase (hs.flatMap fun h ↦ hunkLines old new h.blocks)).Sublist
        (linesFrom old i old.size) ∧
      (shown LineKind.inProposed (hs.flatMap fun h ↦ hunkLines old new h.blocks)).Sublist
        (linesFrom new j new.size) := by
  induction hs generalizing i j with
  | nil => exact ⟨List.nil_sublist _, List.nil_sublist _⟩
  | cons h hs ih =>
    obtain ⟨n, -, hold, hnew, ⟨hbase, hproposed, holdEnd, hnewEnd⟩, hrest⟩ := hlaid
    obtain ⟨hblocks, hne⟩ := List.forall_mem_cons.mp hne
    obtain ⟨hrestOld, hrestNew⟩ := ih hrest hne
    rw [List.flatMap_cons, shown_append, shown_append, shown_hunkLines rfl hblocks,
      shown_hunkLines rfl hblocks, hbase, hproposed]
    have hleOld : h.old ≤ h.oldEnd := Nat.le_add_right _ _
    have hleNew : h.new ≤ h.newEnd := Nat.le_add_right _ _
    constructor
    · rw [← linesFrom_append (i := i) (j := h.old) (n := old.size) (by omega) (by omega),
        ← linesFrom_append hleOld holdEnd]
      exact (hrestOld.append_left _).trans (List.sublist_append_right _ _)
    · rw [← linesFrom_append (i := j) (j := h.new) (n := new.size) (by omega) (by omega),
        ← linesFrom_append hleNew hnewEnd]
      exact (hrestNew.append_left _).trans (List.sublist_append_right _ _)

theorem countP_isMissingNewline (hheader : kinds .header = false) (ls : List PatchLine) :
    ls.countP (fun l ↦ kinds l.kind && l.isMissingNewline) =
      (shown kinds ls).countP fun text ↦ !isTerminated text.toList := by
  rw [shown, List.countP_map, List.countP_filter]
  refine List.countP_congr fun l _ ↦ ?_
  rw [Function.comp_apply, Bool.and_comm]
  by_cases hkind : l.kind = .header
  · rw [hkind, hheader, Bool.and_false, Bool.and_false]
  · rw [PatchLine.isMissingNewline_eq hkind]

/-- **Every line of a patch ends as it does in its texts.** Below its header a hunk shows lines of
text, each in its place in the texts that it belongs to: as many places behind the start of the hunk
as the hunk shows lines of this text before it. A line is without a terminator exactly if its text
ends in this place without one, so that at most one kept or removed line and at most one kept or
added line of a patch is. -/
theorem placed_between (base proposed : String) :
    let old := linesOf base
    let new := linesOf proposed
    let hunks := hunksBetween base proposed
    (between base proposed).lines = (hunks.flatMap fun h ↦ hunkLines old new h.blocks) ∧
    LaidOut old new 0 0 hunks ∧
    (∀ h ∈ hunks, ∃ header : Header,
      hunkLines old new h.blocks = ⟨.header, header.render⟩ :: h.body old new ∧
      ∀ before l after, h.body old new = before ++ l :: after →
        l.Placed base proposed (h.old + (shown LineKind.inBase before).length)
          (h.new + (shown LineKind.inProposed before).length)) ∧
    (between base proposed).lines.countP (fun l ↦ l.kind.inBase && l.isMissingNewline) ≤ 1 ∧
    (between base proposed).lines.countP (fun l ↦ l.kind.inProposed && l.isMissingNewline) ≤ 1 := by
  intro old new hunks
  obtain ⟨hlaid, hstands⟩ := mem_hunksBetween base proposed
  have hlines := lines_between base proposed
  have hne : ∀ h ∈ hunks, h.blocks ≠ [] := fun h hh ↦ (hstands h hh).1.ne_nil
  obtain ⟨hold, hnew⟩ := hlaid.sublist hne
  rw [← hlines, linesFrom, Array.extract_size] at hold hnew
  refine ⟨hlines, hlaid, fun h hh ↦ ⟨_, Hunk.hunkLines_eq_lines (hne h hh), ?_⟩, ?_, ?_⟩
  · exact fun before l after hbody ↦ (hstands h hh).1.shows.placed hbody
  · rw [countP_isMissingNewline rfl]
    exact hold.countP_le.trans (countP_not_isTerminated_le base)
  · rw [countP_isMissingNewline rfl]
    exact hnew.countP_le.trans (countP_not_isTerminated_le proposed)

/-- The line between the carriage return and the newline is one of its own, and it is empty. -/
example : (between "a\nb" "a\r\r\nb").lines.map (fun l ↦ (l.displayText, l.isMissingNewline)) =
    [("@@ -1,2 +1,3 @@", false), ("a", false), ("a", false), ("", false), ("b", true)] := by
  decide +kernel

end Patch

end Redline
