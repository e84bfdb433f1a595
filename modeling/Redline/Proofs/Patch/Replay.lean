import Redline.Proofs.Patch.Hunk

/-!
# Replaying a patch on any text

A patch can be replayed on any text, not only on the one that it was made for. What comes of it is
said hunk by hunk: a hunk fits a text if its start lies in the text and the lines from there on
begin with those that the hunk replaces. If all hunks fit, the result is the text with these lines
replaced, and otherwise the replay ends at the first line that does not fit.

The hunks of a patch between two texts stand apart from one another, so none overlaps the one before
it, whatever the text is on which they are replayed.
-/

namespace Redline.Patch

open Redline.Diff

variable {source old new : Array String} {i : Nat} {e : ReplayError}

/-! ## Hunks as they are shown -/

/-- A hunk as a patch shows it. -/
structure ShownHunk where
  /-- What its header says. -/
  header : Header
  body : List PatchLine
deriving DecidableEq, Repr

namespace ShownHunk

def lines (h : ShownHunk) : List PatchLine := ⟨.header, h.header.render⟩ :: h.body

/-- Where a hunk starts in the base text, by its header. -/
def start (h : ShownHunk) : Nat := h.header.old.start

/-- The lines that a hunk replaces: those that it keeps and those that it removes. -/
def before (h : ShownHunk) : List String := shown LineKind.inBase h.body

/-- The lines that a hunk puts in their place: those that it keeps and those that it adds. -/
def after (h : ShownHunk) : List String := shown LineKind.inProposed h.body

/-- From the start of the hunk on the text begins with the lines that the hunk replaces. -/
structure Fits (source : Array String) (h : ShownHunk) : Prop where
  /-- The hunk starts in the text. -/
  start_le : h.start ≤ source.size
  /-- The lines that it replaces are there. -/
  begins : h.before <+: source.toList.drop h.start

instance (source : Array String) (h : ShownHunk) : Decidable (h.Fits source) :=
  decidable_of_iff (h.start ≤ source.size ∧ h.before <+: source.toList.drop h.start)
    ⟨fun ⟨hstart, hbefore⟩ ↦ ⟨hstart, hbefore⟩, fun ⟨hstart, hbefore⟩ ↦ ⟨hstart, hbefore⟩⟩

end ShownHunk

/-- The lines of a text from a place on, with those of the hunks replaced. -/
def replaced (source : Array String) : Nat → List ShownHunk → List String
  | i, [] => linesFrom source i source.size
  | i, h :: hs =>
    linesFrom source i h.start ++ h.after ++ replaced source (h.start + h.before.length) hs

/-- The first of some lines that a text does not have from a place on, as an error. -/
inductive Misfit (source : Array String) : Nat → List String → ReplayError → Prop
  /-- The text ends before the line. -/
  | missing {i : Nat} {l : String} {ls : List String} :
    source[i]? = none → Misfit source i (l :: ls) (.missingLine (i + 1))
  /-- The text has another line. -/
  | mismatch {i : Nat} {l found : String} {ls : List String} :
    source[i]? = some found → found ≠ l →
      Misfit source i (l :: ls) (.contextMismatch (i + 1) l found)
  /-- The text has the line, and a later one is the first that it does not have. -/
  | later {i : Nat} {l : String} {ls : List String} {e : ReplayError} :
    source[i]? = some l → Misfit source (i + 1) ls e → Misfit source i (l :: ls) e

/-- The first line of some hunks that does not fit a text, as an error. -/
inductive FirstMisfit (source : Array String) : List ShownHunk → ReplayError → Prop
  /-- The text ends before the hunk starts. -/
  | start {h : ShownHunk} {hs : List ShownHunk} : source.size < h.start →
    FirstMisfit source (h :: hs) (.missingLine h.start)
  /-- A line that the hunk replaces is not there. -/
  | body {h : ShownHunk} {hs : List ShownHunk} {e : ReplayError} : h.start ≤ source.size →
    Misfit source h.start h.before e → FirstMisfit source (h :: hs) e
  /-- The hunk fits, and a later one does not. -/
  | later {h : ShownHunk} {hs : List ShownHunk} {e : ReplayError} : h.Fits source →
    FirstMisfit source hs e → FirstMisfit source (h :: hs) e

/-! ## Lines that fit -/

theorem drop_eq_cons {l : String} (h : source[i]? = some l) :
    source.toList.drop i = l :: source.toList.drop (i + 1) := by
  obtain ⟨hi, rfl⟩ := Array.getElem?_eq_some_iff.mp h
  have hlength : i < source.toList.length := hi
  rw [List.drop_eq_getElem_cons hlength, Array.getElem_toList]

theorem cons_prefix_drop_iff {l : String} {ls : List String} :
    l :: ls <+: source.toList.drop i ↔
      source[i]? = some l ∧ ls <+: source.toList.drop (i + 1) := by
  cases hi : source[i]? with
  | none =>
    have hsize : source.size ≤ i := Array.getElem?_eq_none_iff.mp hi
    have hnil : source.toList.drop i = [] := List.drop_eq_nil_of_le hsize
    rw [hnil]
    exact iff_of_false (fun h ↦ absurd (List.prefix_nil.mp h) nofun) fun h ↦ absurd h.1 nofun
  | some found => rw [drop_eq_cons hi, List.cons_prefix_cons, Option.some.injEq, eq_comm]

theorem Misfit.not_prefix {ls : List String} (h : Misfit source i ls e) :
    ¬ls <+: source.toList.drop i := by
  induction h with
  | missing hnone =>
    rw [cons_prefix_drop_iff, hnone]
    exact fun h ↦ absurd h.1 nofun
  | mismatch hfound hne =>
    rw [cons_prefix_drop_iff, hfound]
    exact fun h ↦ hne (Option.some.inj h.1)
  | later hfound _ ih =>
    rw [cons_prefix_drop_iff]
    exact fun h ↦ ih h.2

theorem FirstMisfit.not_fits {hs : List ShownHunk} (h : FirstMisfit source hs e) :
    ¬∀ g ∈ hs, g.Fits source := by
  induction h with
  | start hsize =>
    intro hfits
    exact absurd (hfits _ List.mem_cons_self).start_le (Nat.not_le.mpr hsize)
  | body _ hbody =>
    intro hfits
    exact hbody.not_prefix (hfits _ List.mem_cons_self).begins
  | later _ _ ih =>
    intro hfits
    exact ih fun g hg ↦ hfits g (List.mem_cons_of_mem _ hg)

/-! ## Replaying the lines of a hunk -/

theorem steps_error_cons {p : Progress} {l : PatchLine} {ls : List PatchLine}
    (h : step source p l = .error e) : steps source p (l :: ls) = .error e := by
  rw [steps, h]

theorem steps_append_error {p : Progress} {ls ms : List PatchLine}
    (h : steps source p ls = .error e) : steps source p (ls ++ ms) = .error e := by
  induction ls generalizing p with
  | nil => exact absurd h nofun
  | cons l ls ih =>
    cases hstep : step source p l with
    | error e' =>
      rw [steps_error_cons hstep] at h
      rw [List.cons_append, steps_error_cons hstep, h]
    | ok q =>
      rw [steps_cons hstep] at h
      rw [List.cons_append, steps_cons hstep]
      exact ih h

theorem shown_cons (kinds : LineKind → Bool) (l : PatchLine) (ls : List PatchLine) :
    shown kinds (l :: ls) = (if kinds l.kind then [l.text] else []) ++ shown kinds ls := by
  rw [shown, List.filter_cons]
  split <;> rfl

theorem step_added {out : List String} {text : String} :
    step source ⟨i, true, out⟩ ⟨.added, text⟩ = .ok ⟨i, true, text :: out⟩ := rfl

theorem step_read {p : Progress} {kind : LineKind} {text : String} (hkind : kind.inBase = true) :
    step source p ⟨kind, text⟩ =
      if !p.inHunk then .error (.lineOutsideHunk kind)
      else match source[p.cursor]? with
        | none => .error (.missingLine (p.cursor + 1))
        | some found =>
          if found ≠ text then .error (.contextMismatch (p.cursor + 1) text found)
          else .ok ⟨p.cursor + 1, true,
            if kind = .context then found :: p.output else p.output⟩ := by
  cases kind with
  | added => exact absurd hkind nofun
  | header => exact absurd hkind nofun
  | context => rfl
  | removed => rfl

theorem step_missing {kind : LineKind} {text : String} {out : List String}
    (hkind : kind.inBase = true) (hnone : source[i]? = none) :
    step source ⟨i, true, out⟩ ⟨kind, text⟩ = .error (.missingLine (i + 1)) := by
  rw [step_read hkind]
  simp only [hnone]
  rfl

theorem step_mismatch {kind : LineKind} {text found : String} {out : List String}
    (hkind : kind.inBase = true) (hfound : source[i]? = some found) (hne : found ≠ text) :
    step source ⟨i, true, out⟩ ⟨kind, text⟩ = .error (.contextMismatch (i + 1) text found) := by
  rw [step_read hkind]
  simp only [hfound]
  exact if_pos hne

theorem step_found {kind : LineKind} {text : String} {out : List String}
    (hkind : kind.inBase = true) (hfound : source[i]? = some text) :
    step source ⟨i, true, out⟩ ⟨kind, text⟩ =
      .ok ⟨i + 1, true, (if kind.inProposed then [text] else []) ++ out⟩ := by
  rw [step_read hkind]
  simp only [hfound]
  cases kind with
  | added => exact absurd hkind nofun
  | header => exact absurd hkind nofun
  | context => exact if_neg (not_not_intro rfl)
  | removed => exact if_neg (not_not_intro rfl)

theorem step_header {p : Progress} {header : Header}
    (h : Header.read? header.render.toList = some header) :
    step source p ⟨.header, header.render⟩ =
      if header.old.start < p.cursor then .error (.overlappingHunk (header.old.start + 1))
      else if source.size < header.old.start then .error (.missingLine header.old.start)
      else .ok ⟨header.old.start, true,
        (linesFrom source p.cursor header.old.start).reverse ++ p.output⟩ := by
  simp only [step, h]

/-- The lines of a hunk are replayed if the text has those that the hunk replaces. Otherwise the
first of these that it does not have is the error. -/
theorem steps_body (source : Array String) {body : List PatchLine} (out : List String)
    (hbody : ∀ l ∈ body, l.kind ≠ .header) :
    (shown LineKind.inBase body <+: source.toList.drop i ∧
      steps source ⟨i, true, out⟩ body = .ok ⟨i + (shown LineKind.inBase body).length, true,
        (shown LineKind.inProposed body).reverse ++ out⟩) ∨
    ∃ e, Misfit source i (shown LineKind.inBase body) e ∧
      steps source ⟨i, true, out⟩ body = .error e := by
  induction body generalizing i out with
  | nil => exact Or.inl ⟨List.nil_prefix, rfl⟩
  | cons l body ih =>
    obtain ⟨hl, hrest⟩ := List.forall_mem_cons.mp hbody
    obtain ⟨kind, text⟩ := l
    rw [shown_cons, shown_cons]
    by_cases hkind : kind.inBase = true
    · -- The line is read, so the text must have it here.
      have hbefore : (if kind.inBase then [text] else []) = [text] := if_pos hkind
      rw [hbefore, List.singleton_append]
      cases hfound : source[i]? with
      | none => exact Or.inr ⟨_, .missing hfound, steps_error_cons (step_missing hkind hfound)⟩
      | some found =>
        by_cases hne : found = text
        · subst hne
          rw [steps_cons (step_found hkind hfound)]
          rcases ih ((if kind.inProposed then [found] else []) ++ out) (i := i + 1) hrest with
            ⟨hfront, hsteps⟩ | ⟨e, hmisfit, hsteps⟩
          · refine Or.inl ⟨cons_prefix_drop_iff.mpr ⟨hfound, hfront⟩, ?_⟩
            rw [hsteps, List.length_cons, Nat.add_right_comm, Nat.add_assoc, List.reverse_append,
              List.append_assoc]
            cases kind.inProposed <;> rfl
          · exact Or.inr ⟨e, .later hfound hmisfit, hsteps⟩
        · exact Or.inr ⟨_, .mismatch hfound hne,
            steps_error_cons (step_mismatch hkind hfound hne)⟩
    · obtain rfl : kind = .added := by
        cases kind with
        | added => rfl
        | header => exact absurd rfl hl
        | context => exact absurd rfl hkind
        | removed => exact absurd rfl hkind
      rw [steps_cons step_added]
      rcases ih (text :: out) (i := i) hrest with ⟨hfront, hsteps⟩ | ⟨e, hmisfit, hsteps⟩
      · refine Or.inl ⟨hfront, ?_⟩
        rw [hsteps]
        change Except.ok (Progress.mk _ true _) =
          .ok (Progress.mk _ true ((text :: _).reverse ++ _))
        rw [List.reverse_cons, List.append_assoc]
        rfl
      · exact Or.inr ⟨e, hmisfit, hsteps⟩

/-! ## Replaying hunks -/

/-- A hunk whose header reads back, with no header below it. -/
structure ShownHunk.Readable (h : ShownHunk) : Prop where
  /-- The header is read as it was written. -/
  header_read : Header.read? h.header.render.toList = some h.header
  /-- The lines below are no headers. -/
  body_kind : ∀ l ∈ h.body, l.kind ≠ .header

/-- Hunks that start at or behind a place, each at or behind the end of the one before it. -/
def Apart : Nat → List ShownHunk → Prop
  | _, [] => True
  | i, h :: hs => i ≤ h.start ∧ Apart (h.start + h.before.length) hs

/-- **Hunks that stand apart are replayed if all of them fit.** Otherwise the first line that does
not fit is the error. -/
theorem steps_shown (source : Array String) {hs : List ShownHunk} (inHunk : Bool)
    (out : List String) (hread : ∀ h ∈ hs, h.Readable) (hapart : Apart i hs)
    (hi : i ≤ source.size) :
    ((∀ h ∈ hs, h.Fits source) ∧ ∃ p,
      steps source ⟨i, inHunk, out⟩ (hs.flatMap ShownHunk.lines) = .ok p ∧
        p.output.reverse ++ linesFrom source p.cursor source.size =
          out.reverse ++ replaced source i hs) ∨
    ∃ e, FirstMisfit source hs e ∧
      steps source ⟨i, inHunk, out⟩ (hs.flatMap ShownHunk.lines) = .error e := by
  induction hs generalizing i inHunk out with
  | nil => exact Or.inl ⟨nofun, _, rfl, rfl⟩
  | cons h hs ih =>
    obtain ⟨⟨hheader, hbody⟩, hread⟩ := List.forall_mem_cons.mp hread
    obtain ⟨hstart, hapart⟩ := hapart
    rw [List.flatMap_cons, ShownHunk.lines, List.cons_append]
    by_cases hsize : source.size < h.start
    · refine Or.inr ⟨_, .start hsize, steps_error_cons ?_⟩
      rw [step_header hheader]
      exact (if_neg (Nat.not_lt.mpr hstart)).trans (if_pos hsize)
    -- The header is passed, and the lines up to it are copied.
    have hle : h.start ≤ source.size := Nat.not_lt.mp hsize
    have hstep : step source ⟨i, inHunk, out⟩ ⟨.header, h.header.render⟩ =
        .ok ⟨h.start, true, (linesFrom source i h.start).reverse ++ out⟩ := by
      rw [step_header hheader]
      exact (if_neg (Nat.not_lt.mpr hstart)).trans (if_neg hsize)
    rw [steps_cons hstep]
    rcases steps_body source ((linesFrom source i h.start).reverse ++ out) (i := h.start)
      hbody with ⟨hfront, hsteps⟩ | ⟨e, hmisfit, hsteps⟩
    · have hfits : h.Fits source := ⟨hle, hfront⟩
      have hend : h.start + h.before.length ≤ source.size := by
        have hlength := hfront.length_le
        have hlist : source.toList.length = source.size := Array.length_toList
        rw [List.length_drop, hlist] at hlength
        rw [ShownHunk.before]
        omega
      rw [steps_append hsteps]
      rcases ih _ _ hread hapart hend with ⟨hall, p, hp, hlines⟩ | ⟨e, hmisfit, hp⟩
      · refine Or.inl ⟨List.forall_mem_cons.mpr ⟨hfits, hall⟩, p, hp, ?_⟩
        rw [hlines, replaced, List.reverse_append, List.reverse_append, List.reverse_reverse,
          List.reverse_reverse, ShownHunk.after, List.append_assoc, List.append_assoc,
          List.append_assoc]
      · exact Or.inr ⟨e, .later hfits hmisfit, hp⟩
    · exact Or.inr ⟨e, .body hle hmisfit, steps_append_error hsteps⟩

/-! ## Slices -/

theorem step_forward {p q : Progress} {l : PatchLine} (hp : p.cursor ≤ source.size)
    (h : step source p l = .ok q) : p.cursor ≤ q.cursor ∧ q.cursor ≤ source.size := by
  obtain ⟨kind, text⟩ := l
  by_cases hkind : kind.inBase = true
  · rw [step_read hkind] at h
    split at h
    next => cases h
    next =>
      split at h
      next => cases h
      next found hfound =>
        split at h
        next => cases h
        next =>
          obtain rfl := Except.ok.inj h
          exact ⟨Nat.le_succ _, (Array.getElem?_eq_some_iff.mp hfound).1⟩
  · cases kind with
    | context => exact absurd rfl hkind
    | removed => exact absurd rfl hkind
    | added =>
      simp only [step] at h
      split at h
      next => cases h
      next =>
        obtain rfl := Except.ok.inj h
        exact ⟨Nat.le_refl _, hp⟩
    | header =>
      simp only [step] at h
      split at h
      next => cases h
      next header _ =>
        split at h
        next => cases h
        next hoverlap =>
          split at h
          next => cases h
          next hsize =>
            obtain rfl := Except.ok.inj h
            exact ⟨Nat.not_lt.mp hoverlap, Nat.not_lt.mp hsize⟩

theorem cursor_le_of_steps {p q : Progress} {ls : List PatchLine} (hp : p.cursor ≤ source.size)
    (h : steps source p ls = .ok q) : q.cursor ≤ source.size := by
  induction ls generalizing p with
  | nil =>
    obtain rfl := Except.ok.inj h
    exact hp
  | cons l ls ih =>
    cases hstep : step source p l with
    | error e =>
      rw [steps_error_cons hstep] at h
      exact absurd h nofun
    | ok r =>
      rw [steps_cons hstep] at h
      exact ih (step_forward hp hstep).2 h

/-- A replay of some lines goes forward within the text: wherever it stands lies in the text, and no
step goes back. So what a header copies, and what is copied in the end, are slices of the text. -/
def GoesForward (source : Array String) (ls : List PatchLine) : Prop :=
  ∀ front back p, ls = front ++ back → steps source .start front = .ok p →
    p.cursor ≤ source.size ∧
      ∀ l ∈ back.head?, ∀ q, step source p l = .ok q → p.cursor ≤ q.cursor

theorem goesForward (source : Array String) (ls : List PatchLine) : GoesForward source ls := by
  intro front back p _ hfront
  have hp : p.cursor ≤ source.size := cursor_le_of_steps (Nat.zero_le _) hfront
  exact ⟨hp, fun l _ q hq ↦ (step_forward hp hq).1⟩

/-! ## The hunks of the patch between two texts -/

theorem kind_of_mem_blockLines {b : Block} {l : PatchLine} (h : l ∈ blockLines old new b) :
    l.kind ≠ .header := by
  rw [blockLines] at h
  split at h
  · rw [kind_of_mem_linesAs h]
    decide
  · rcases List.mem_append.mp h with h | h
    · rw [kind_of_mem_linesAs h]
      decide
    · rw [kind_of_mem_linesAs h]
      decide

theorem kind_of_mem_body {h : Hunk} {l : PatchLine} (hmem : l ∈ h.body old new) :
    l.kind ≠ .header := by
  obtain ⟨b, -, hb⟩ := List.mem_flatMap.mp hmem
  exact kind_of_mem_blockLines hb

namespace Hunk

/-- The header of a hunk. Without any blocks there is nothing in its ranges. -/
def header (h : Hunk) : Header :=
  match h.blocks.head?, h.blocks.getLast? with
  | some first, some last => groupHeader first last
  | _, _ => ⟨⟨h.old, 0⟩, ⟨h.new, 0⟩⟩

def toShown (old new : Array String) (h : Hunk) : ShownHunk := ⟨h.header, h.body old new⟩

variable {h : Hunk}

theorem hunkLines_eq_lines (hne : h.blocks ≠ []) :
    hunkLines old new h.blocks = (h.toShown old new).lines := by
  obtain ⟨first, rest, hblocks⟩ := List.exists_cons_of_ne_nil hne
  have hhead : h.blocks.head? = some first := by rw [hblocks, List.head?_cons]
  have hlast := List.getLast?_eq_some_getLast hne
  have hheader : h.header = groupHeader first (h.blocks.getLast hne) := by
    rw [header, hhead, hlast]
  rw [hunkLines_eq hhead hlast, ShownHunk.lines, toShown, hheader]
  rfl

/-- What a hunk shows, and where. -/
theorem Stands.toShown_spec (hstands : h.Stands old new) (hold : 2 * old.size < Text.wordBound)
    (hnew : 2 * new.size < Text.wordBound) :
    hunkLines old new h.blocks = (h.toShown old new).lines ∧ (h.toShown old new).Readable ∧
      (h.toShown old new).start = h.old ∧
        (h.toShown old new).start + (h.toShown old new).before.length = h.oldEnd := by
  obtain ⟨first, last, a, b, hhead, hlast, hstart, hfirst, -⟩ := hstands.exists_border
  obtain ⟨hbase, -, holdEnd, -⟩ := hstands.shows
  obtain ⟨-, -, hfirstNew⟩ := hfirst.bounds
  have hle : h.old ≤ h.oldEnd := Nat.le_add_right _ _
  have hheader : h.header = groupHeader first last := by
    rw [header, hhead, hlast]
  have hstart' : (h.toShown old new).start = h.old := by
    rw [ShownHunk.start, toShown, hheader, groupHeader, hstart]
  refine ⟨hunkLines_eq_lines hstands.ne_nil, ⟨?_, ?_⟩, hstart', ?_⟩
  · rw [toShown, hheader]
    exact Header.read?_render (groupHeader_fitsWord (by omega) (by omega))
  · exact fun l hl ↦ kind_of_mem_body hl
  · rw [hstart', ShownHunk.before, toShown, hbase, length_linesFrom holdEnd]
    omega

end Hunk

theorem apart_of_laidOut {j : Nat} {hs : List Hunk} (h : LaidOut old new i j hs)
    (hstands : ∀ hunk ∈ hs, hunk.Stands old new) (hold : 2 * old.size < Text.wordBound)
    (hnew : 2 * new.size < Text.wordBound) : Apart i (hs.map (Hunk.toShown old new)) := by
  induction hs generalizing i j with
  | nil => trivial
  | cons hunk hs ih =>
    obtain ⟨n, -, hplace, -, -, hrest⟩ := h
    obtain ⟨hfirst, hothers⟩ := List.forall_mem_cons.mp hstands
    obtain ⟨-, -, hstart, hend⟩ := hfirst.toShown_spec hold hnew
    rw [List.map_cons, Apart, hend, hstart, hplace]
    exact ⟨Nat.le_add_right _ _, ih hrest hothers⟩

def shownHunks (base proposed : String) : List ShownHunk :=
  (hunksBetween base proposed).map (Hunk.toShown (Text.linesOf base) (Text.linesOf proposed))

theorem shownHunks_spec {base proposed : String} (hbase : Text.FitsMemory base)
    (hproposed : Text.FitsMemory proposed) :
    (between base proposed).lines = (shownHunks base proposed).flatMap ShownHunk.lines ∧
      (∀ h ∈ shownHunks base proposed, h.Readable) ∧ Apart 0 (shownHunks base proposed) := by
  obtain ⟨hlaid, hmem⟩ := mem_hunksBetween base proposed
  have hspec := fun h hh ↦ (hmem h hh).1.toShown_spec hbase.size_linesOf_lt
    hproposed.size_linesOf_lt
  refine ⟨?_, ?_, apart_of_laidOut hlaid (fun h hh ↦ (hmem h hh).1) hbase.size_linesOf_lt
    hproposed.size_linesOf_lt⟩
  · rw [lines_between, shownHunks, List.flatMap_map]
    exact List.flatMap_congr fun h hh ↦ (hspec h hh).1
  · intro h hh
    obtain ⟨hunk, hhunk, rfl⟩ := List.mem_map.mp hh
    exact (hspec hunk hhunk).2.1

/-! ## Replaying the patch between two texts -/

/-- **Replaying a patch hunk by hunk.** The patch between two texts can be replayed on a text if and
only if each of its hunks fits the text, and then makes of it the text with the lines of the hunks
replaced. Otherwise the error is that of the first line that does not fit. The replay goes forward
within the text, whatever the text is. -/
theorem replay_hunks (base proposed text : String) (hbase : Text.FitsMemory base)
    (hproposed : Text.FitsMemory proposed) :
    let patch := between base proposed
    let hunks := shownHunks base proposed
    let source := Text.linesOf text
    patch.lines = hunks.flatMap ShownHunk.lines ∧ (∀ h ∈ hunks, h.Readable) ∧
    ((∃ u, patch.applyTo text = .ok u) ↔ ∀ h ∈ hunks, h.Fits source) ∧
    (∀ u, patch.applyTo text = .ok u → u = String.join (replaced source 0 hunks)) ∧
    (∀ e, patch.applyTo text = .error e → FirstMisfit source hunks e) ∧
    GoesForward source patch.lines := by
  intro patch hunks source
  obtain ⟨hlines, hread, hapart⟩ := shownHunks_spec hbase hproposed
  refine ⟨hlines, hread, ?_⟩
  rcases steps_shown source false [] hread hapart (Nat.zero_le _) with
    ⟨hfits, p, hsteps, hresult⟩ | ⟨e, hmisfit, hsteps⟩
  · have happly : patch.applyTo text = .ok (String.join (replaced source 0 hunks)) := by
      have hstart : steps source .start patch.lines = .ok p := hlines ▸ hsteps
      simp only [applyTo]
      rw [hstart]
      exact congrArg (Except.ok ∘ String.join) hresult
    refine ⟨iff_of_true ⟨_, happly⟩ hfits, ?_, ?_, goesForward _ _⟩
    · intro u hu
      exact (Except.ok.inj (happly.symm.trans hu)).symm
    · intro e he
      cases happly.symm.trans he
  · have happly : patch.applyTo text = .error e := by
      have hstart : steps source .start patch.lines = .error e := hlines ▸ hsteps
      simp only [applyTo]
      rw [hstart]
    refine ⟨iff_of_false ?_ hmisfit.not_fits, ?_, ?_, goesForward _ _⟩
    · rintro ⟨u, hu⟩
      cases happly.symm.trans hu
    · intro u hu
      cases happly.symm.trans hu
    · intro e' he'
      obtain rfl := Except.error.inj (happly.symm.trans he')
      exact hmisfit

/-- A patch is replayed on a text that goes on behind the one that it was made for. -/
theorem replay_hunks_longer :
    (Text.FitsMemory "a\nb\n" ∧ Text.FitsMemory "a\nx\n") ∧
      (between "a\nb\n" "a\nx\n").applyTo "a\nb\nc" = .ok "a\nx\nc" ∧
        ∃ e, (between "a\nb\n" "a\nx\n").applyTo "a\nc" = .error e := by
  have hbase : Text.FitsMemory "a\nb\n" := by decide
  have hproposed : Text.FitsMemory "a\nx\n" := by decide
  have hhunks : shownHunks "a\nb\n" "a\nx\n" = [⟨⟨⟨0, 2⟩, ⟨0, 2⟩⟩,
      [⟨.context, "a\n"⟩, ⟨.removed, "b\n"⟩, ⟨.added, "x\n"⟩]⟩] := by
    have hplaces : hunksBetween "a\nb\n" "a\nx\n" =
        [⟨0, 0, [.equal 0 0 1, ⟨false, 1, 1, 1, 1⟩]⟩] := by cbv
    rw [shownHunks, hplaces]
    decide +kernel
  obtain ⟨-, -, hlonger, hresult, -⟩ := replay_hunks _ _ "a\nb\nc" hbase hproposed
  obtain ⟨-, -, hother, -⟩ := replay_hunks _ _ "a\nc" hbase hproposed
  rw [hhunks] at hlonger hresult hother
  refine ⟨⟨hbase, hproposed⟩, ?_, ?_⟩
  · obtain ⟨u, hu⟩ := hlonger.mpr (by decide +kernel)
    rw [hu, hresult u hu]
    decide +kernel
  · cases happly : (between "a\nb\n" "a\nx\n").applyTo "a\nc" with
    | error e => exact ⟨e, rfl⟩
    | ok u => exact absurd (hother.mp ⟨u, happly⟩) (by decide +kernel)

end Redline.Patch
