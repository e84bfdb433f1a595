import Redline.Text.Line
import Redline.Text.Numeral

/-!
# Lines lose nothing

The lines of a text, put one after the other, are the text again, whatever its terminators are. A
text is therefore determined by its lines. No line is empty, so a text has no more lines than bytes.

Without its terminator a line holds no end of line, and neither does a line as it is displayed. Only
the last line of a text can be without a terminator, and it is exactly if the text does not end with
one.
-/

namespace Redline.Text

variable {cs line body terminator : List Char}

theorem flatten_lines (cs : List Char) : (lines cs).flatten = cs := by
  fun_induction lines cs with
  | case1 => rfl
  | case2 rest ih => rw [List.flatten_cons, ih]; rfl
  | case3 c rest _ _ ih => rw [List.flatten_cons, ih]; rfl
  | case4 c rest _ _ heq ih =>
    rw [heq] at ih
    rw [← ih]
    rfl
  | case5 c rest _ _ line more heq ih =>
    rw [heq] at ih
    rw [← ih]
    rfl

theorem length_lines_le (cs : List Char) : (lines cs).length ≤ cs.length := by
  fun_induction lines cs with
  | case1 => exact Nat.le_refl _
  | case2 rest ih => simp only [List.length_cons]; omega
  | case3 c rest _ _ ih => simp only [List.length_cons]; omega
  | case4 c rest _ _ heq ih => simp only [List.length_cons, List.length_nil]; omega
  | case5 c rest _ _ line more heq ih =>
    rw [heq] at ih
    simp only [List.length_cons] at ih ⊢
    omega

theorem join_map_ofList (parts : List (List Char)) :
    String.join (parts.map String.ofList) = String.ofList parts.flatten := by
  induction parts with
  | nil => rfl
  | cons part parts ih =>
    rw [List.map_cons, String.join_cons, ih, List.flatten_cons, String.ofList_append]

@[simp] theorem join_linesOf (s : String) : String.join (linesOf s).toList = s := by
  rw [linesOf, List.toList_toArray, join_map_ofList, flatten_lines, String.ofList_toList]

theorem linesOf_injective {s t : String} (h : linesOf s = linesOf t) : s = t := by
  rw [← join_linesOf s, h, join_linesOf]

theorem length_le_utf8ByteSize_ofList (cs : List Char) :
    cs.length ≤ (String.ofList cs).utf8ByteSize := by
  induction cs with
  | nil => exact Nat.zero_le _
  | cons c cs ih =>
    have hsplit : String.ofList (c :: cs) = String.singleton c ++ String.ofList cs := by
      rw [String.singleton_eq_ofList, ← String.ofList_append]
      rfl
    have hpos := c.utf8Size_pos
    rw [hsplit, String.utf8ByteSize_append, String.utf8ByteSize_singleton, List.length_cons]
    omega

theorem size_linesOf_le (s : String) : (linesOf s).size ≤ s.utf8ByteSize := by
  have hchars := length_le_utf8ByteSize_ofList s.toList
  rw [String.ofList_toList] at hchars
  rw [linesOf, List.size_toArray, List.length_map]
  exact Nat.le_trans (length_lines_le s.toList) hchars

/-- A text of fewer than `2 ^ 63` bytes. No text in memory is longer, so that lines can be counted
and numbered in 64-bit words. -/
def FitsMemory (s : String) : Prop := 2 * s.utf8ByteSize < wordBound

instance (s : String) : Decidable (FitsMemory s) :=
  inferInstanceAs (Decidable (2 * s.utf8ByteSize < wordBound))

theorem FitsMemory.size_linesOf_lt {s : String} (h : FitsMemory s) :
    2 * (linesOf s).size < wordBound :=
  Nat.lt_of_le_of_lt (Nat.mul_le_mul_left 2 (size_linesOf_le s)) h

/-! ## Terminators -/

/-- What a line may end in. -/
inductive Terminator : List Char → Prop
  | none : Terminator []
  | newline : Terminator ['\n']
  | carriageReturn : Terminator ['\r']
  | both : Terminator ['\r', '\n']

/-- A line is a body without ends of lines, and then its terminator. -/
theorem exists_body (cs : List Char) : ∀ line ∈ lines cs, ∃ body terminator,
    line = body ++ terminator ∧ Terminator terminator ∧ '\n' ∉ body ∧ '\r' ∉ body := by
  fun_induction lines cs with
  | case1 => exact nofun
  | case2 rest ih =>
    refine List.forall_mem_cons.mpr ⟨?_, ih⟩
    exact ⟨[], _, rfl, .both, List.not_mem_nil, List.not_mem_nil⟩
  | case3 c rest _ hc ih =>
    refine List.forall_mem_cons.mpr ⟨?_, ih⟩
    rcases hc with rfl | rfl
    · exact ⟨[], _, rfl, .newline, List.not_mem_nil, List.not_mem_nil⟩
    · exact ⟨[], _, rfl, .carriageReturn, List.not_mem_nil, List.not_mem_nil⟩
  | case4 c rest _ hc heq ih =>
    obtain ⟨hnewline, hreturn⟩ := not_or.mp hc
    refine List.forall_mem_singleton.mpr ⟨[c], [], rfl, .none, ?_, ?_⟩
    · exact fun hmem ↦ hnewline (List.mem_singleton.mp hmem).symm
    · exact fun hmem ↦ hreturn (List.mem_singleton.mp hmem).symm
  | case5 c rest _ hc line more heq ih =>
    obtain ⟨hnewline, hreturn⟩ := not_or.mp hc
    rw [heq] at ih
    obtain ⟨⟨body, terminator, rfl, hterminator, hbody⟩, hmore⟩ := List.forall_mem_cons.mp ih
    refine List.forall_mem_cons.mpr ⟨⟨c :: body, terminator, rfl, hterminator, ?_⟩, hmore⟩
    simp only [List.mem_cons, not_or]
    exact ⟨⟨Ne.symm hnewline, hbody.1⟩, Ne.symm hreturn, hbody.2⟩

theorem dropTerminator_append (hterminator : Terminator terminator) (hnewline : '\n' ∉ body)
    (hreturn : '\r' ∉ body) : dropTerminator (body ++ terminator) = body := by
  have hlast : ∀ {c rest}, body.reverse = c :: rest → c ≠ '\n' ∧ c ≠ '\r' := by
    intro c rest hrest
    have hmem : c ∈ body := List.mem_reverse.mp (hrest ▸ List.mem_cons_self)
    exact ⟨fun hc ↦ hnewline (hc ▸ hmem), fun hc ↦ hreturn (hc ▸ hmem)⟩
  rw [dropTerminator, List.reverse_append]
  cases hterminator with
  | none =>
    rw [List.reverse_nil, List.nil_append, List.append_nil]
    split
    next heq => exact absurd rfl (hlast heq).1
    next heq => exact absurd rfl (hlast heq).1
    next heq => exact absurd rfl (hlast heq).2
    next => rfl
  | newline =>
    rw [List.reverse_singleton, List.singleton_append]
    split
    next heq => exact absurd rfl (hlast (List.tail_eq_of_cons_eq heq)).2
    next heq => rw [← List.tail_eq_of_cons_eq heq, List.reverse_reverse]
    next heq => exact absurd (List.head_eq_of_cons_eq heq) (by decide)
    next hnot _ => exact absurd rfl (hnot _)
  | carriageReturn =>
    rw [List.reverse_singleton, List.singleton_append]
    exact List.reverse_reverse body
  | both => simp

theorem exists_terminator (cs : List Char) : ∀ line ∈ lines cs, ∃ terminator,
    line = dropTerminator line ++ terminator ∧ Terminator terminator ∧
      '\n' ∉ dropTerminator line ∧ '\r' ∉ dropTerminator line := by
  intro line hline
  obtain ⟨body, terminator, rfl, hterminator, hnewline, hreturn⟩ := exists_body cs line hline
  rw [dropTerminator_append hterminator hnewline hreturn]
  exact ⟨terminator, rfl, hterminator, hnewline, hreturn⟩

theorem newline_notMem_dropTerminator (cs : List Char) :
    ∀ line ∈ lines cs, '\n' ∉ dropTerminator line := by
  intro line hline
  obtain ⟨_, -, -, hnewline, -⟩ := exists_terminator cs line hline
  exact hnewline

/-! ## The line without a terminator -/

theorem ne_nil_of_mem_lines (cs : List Char) : ∀ line ∈ lines cs, line ≠ [] := by
  fun_induction lines cs with
  | case1 => exact nofun
  | case2 rest ih => exact List.forall_mem_cons.mpr ⟨List.cons_ne_nil _ _, ih⟩
  | case3 c rest _ _ ih => exact List.forall_mem_cons.mpr ⟨List.cons_ne_nil _ _, ih⟩
  | case4 c rest _ _ _ _ => exact List.forall_mem_singleton.mpr (List.cons_ne_nil _ _)
  | case5 c rest _ _ line more heq ih =>
    rw [heq] at ih
    exact List.forall_mem_cons.mpr ⟨List.cons_ne_nil _ _, (List.forall_mem_cons.mp ih).2⟩

/-- Whether a line is terminated is decided by its end. -/
theorem isTerminated_append (body : List Char) (hne : terminator ≠ []) :
    isTerminated (body ++ terminator) = isTerminated terminator := by
  obtain ⟨c, rest, hreverse⟩ := List.exists_cons_of_ne_nil (List.reverse_ne_nil_iff.mpr hne)
  rw [isTerminated, isTerminated, List.reverse_append, hreverse]
  rfl

theorem isTerminated_of_mem_dropLast (cs : List Char) :
    ∀ line ∈ (lines cs).dropLast, isTerminated line = true := by
  have hcons : ∀ {line more}, isTerminated line = true →
      (∀ l ∈ more.dropLast, isTerminated l = true) →
        ∀ l ∈ (line :: more).dropLast, isTerminated l = true := by
    intro line more hline hmore
    cases more with
    | nil => exact nofun
    | cons next more => exact List.forall_mem_cons.mpr ⟨hline, hmore⟩
  fun_induction lines cs with
  | case1 => exact nofun
  | case2 rest ih => exact hcons rfl ih
  | case3 c rest _ hc ih =>
    refine hcons ?_ ih
    rcases hc with rfl | rfl
    · rfl
    · rfl
  | case4 c rest _ _ _ _ => exact nofun
  | case5 c rest _ _ line more heq ih =>
    rw [heq] at ih
    cases more with
    | nil => exact nofun
    | cons next more =>
      obtain ⟨hline, hmore⟩ := List.forall_mem_cons.mp ih
      have hne : line ≠ [] := ne_nil_of_mem_lines rest line (heq ▸ List.mem_cons_self)
      have hlonger := isTerminated_append [c] hne
      exact List.forall_mem_cons.mpr ⟨hlonger.trans hline, hmore⟩

theorem isTerminated_getLast (h : line ∈ (lines cs).getLast?) :
    isTerminated line = isTerminated cs := by
  obtain ⟨front, hfront⟩ := List.getLast?_eq_some_iff.mp h
  have hline : line ∈ lines cs := hfront ▸ List.mem_append_right _ List.mem_cons_self
  have htext : cs = front.flatten ++ line := by
    rw [← flatten_lines cs, hfront, List.flatten_append, List.flatten_singleton]
  rw [htext, isTerminated_append _ (ne_nil_of_mem_lines cs line hline)]

/-- **The line without a terminator** is the last line of a text that does not end with one. -/
theorem isTerminated_eq_false_iff {s text : String} {i : Nat} (h : (linesOf s)[i]? = some text) :
    isTerminated text.toList = false ↔
      i + 1 = (linesOf s).size ∧ isTerminated s.toList = false := by
  have hsize : (linesOf s).size = (lines s.toList).length := by
    rw [linesOf, List.size_toArray, List.length_map]
  rw [linesOf, List.getElem?_toArray, List.getElem?_map] at h
  obtain ⟨line, hline, rfl⟩ := Option.map_eq_some_iff.mp h
  obtain ⟨hi, hget⟩ := List.getElem?_eq_some_iff.mp hline
  rw [String.toList_ofList, hsize]
  by_cases hlast : i + 1 = (lines s.toList).length
  · have hgetLast : line ∈ (lines s.toList).getLast? := by
      rw [List.getLast?_eq_getElem?, ← hlast, Nat.add_sub_cancel]
      exact hline
    rw [isTerminated_getLast hgetLast]
    exact (and_iff_right hlast).symm
  · have hfront : i < (lines s.toList).dropLast.length := by
      rw [List.length_dropLast]
      omega
    have hterminated : isTerminated line = true := by
      refine isTerminated_of_mem_dropLast s.toList line ?_
      rw [← hget, ← List.getElem_dropLast hfront]
      exact List.getElem_mem hfront
    rw [hterminated]
    exact iff_of_false Bool.noConfusion fun h ↦ hlast h.1

theorem countP_not_isTerminated_le (s : String) :
    (linesOf s).toList.countP (fun text ↦ !isTerminated text.toList) ≤ 1 := by
  have hmap : (fun text ↦ !isTerminated text.toList) ∘ String.ofList =
      fun line ↦ !isTerminated line := by
    funext line
    exact congrArg (fun cs ↦ !isTerminated cs) String.toList_ofList
  rw [linesOf, List.toList_toArray, List.countP_map, hmap]
  rcases List.eq_nil_or_concat (lines s.toList) with hnil | ⟨front, last, hlines⟩
  · rw [hnil]
    exact Nat.zero_le 1
  · have hfront : front.countP (fun line ↦ !isTerminated line) = 0 := by
      rw [List.countP_eq_zero]
      intro line hline
      have hterminated : isTerminated line = true := by
        refine isTerminated_of_mem_dropLast s.toList line ?_
        rw [hlines, List.concat_eq_append, List.dropLast_concat]
        exact hline
      rw [hterminated]
      exact Bool.false_ne_true
    rw [hlines, List.concat_eq_append, List.countP_append, hfront, Nat.zero_add]
    exact List.countP_le_length

/-! ## Texts of one line -/

/-- A text without an end of line. A lone `\r` is an ordinary character. -/
def OneLine (s : String) : Prop := '\n' ∉ s.toList

instance (s : String) : Decidable (OneLine s) := inferInstanceAs (Decidable ('\n' ∉ s.toList))

@[simp] theorem oneLine_append {s t : String} : OneLine (s ++ t) ↔ OneLine s ∧ OneLine t := by
  rw [OneLine, String.toList_append, List.mem_append, not_or, OneLine, OneLine]

@[simp] theorem oneLine_ofList : OneLine (String.ofList cs) ↔ '\n' ∉ cs := by
  rw [OneLine, String.toList_ofList]

theorem newline_notMem_displayLines (cs : List Char) : ∀ line ∈ displayLines cs, '\n' ∉ line := by
  fun_induction displayLines cs with
  | case1 => exact nofun
  | case2 rest ih => exact List.forall_mem_cons.mpr ⟨List.not_mem_nil, ih⟩
  | case3 rest _ ih => exact List.forall_mem_cons.mpr ⟨List.not_mem_nil, ih⟩
  | case4 c rest _ hc heq ih =>
    exact List.forall_mem_singleton.mpr fun hmem ↦ hc (List.mem_singleton.mp hmem).symm
  | case5 c rest _ hc line more heq ih =>
    rw [heq] at ih
    obtain ⟨hline, hmore⟩ := List.forall_mem_cons.mp ih
    refine List.forall_mem_cons.mpr ⟨fun hmem ↦ ?_, hmore⟩
    rcases List.mem_cons.mp hmem with hnewline | hmem
    · exact hc hnewline.symm
    · exact hline hmem

theorem oneLine_dropTerminator {s text : String} (h : text ∈ (linesOf s).toList) :
    OneLine (String.ofList (dropTerminator text.toList)) := by
  obtain ⟨line, hline, rfl⟩ := List.mem_map.mp h
  rw [String.toList_ofList, oneLine_ofList]
  exact newline_notMem_dropTerminator s.toList line hline

theorem oneLine_displayLinesOf (s : String) : ∀ line ∈ displayLinesOf s, OneLine line :=
  List.forall_mem_map.mpr fun line hline ↦
    oneLine_ofList.mpr (newline_notMem_displayLines s.toList line hline)

end Redline.Text
