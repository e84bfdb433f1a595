import Redline.Proofs.Patch.Header
import Redline.Proofs.Session.Frame
import Redline.Proofs.Session.Log
import Redline.Proofs.Session.Proposal
import Redline.Proofs.Text.Lines
import Redline.Session.Render

/-!
# Entries of one line

A session is shown as a row of entries, each of them meant to be one line. Texts come into the
entries in three ways. Prompts, explanations and errors are cut into their lines, and every line
has an entry of its own; the lines of a patch lose their terminators; the model, the hint of a
loading mark and the paths of a proposal are put into an entry as they are.

The first two ways are closed to ends of lines, whatever the texts are. The third one is open: an
end of line in a path goes on to the output, and what stands behind it looks like an entry that the
session did not make. Nothing forbids it in a path that a reply gives.
-/

namespace Redline

open Redline.Text

/-! ## Patches -/

@[simp] theorem Text.oneLine_repr (n : Nat) : OneLine n.repr := by
  rw [OneLine, Nat.toList_repr]
  exact not_mem_decimal (by decide)

theorem Patch.LineRange.newline_notMem_write (r : LineRange) : '\n' ∉ r.write := by
  simp only [write, List.mem_append, List.mem_cons, not_or]
  exact ⟨not_mem_decimal (by decide), by decide, not_mem_decimal (by decide)⟩

theorem Patch.Header.oneLine_render (h : Header) : OneLine h.render := by
  rw [render, oneLine_ofList, write]
  simp [h.old.newline_notMem_write, h.new.newline_notMem_write]

theorem PatchLine.oneLine_render {l : PatchLine} (hkind : l.kind ≠ .header)
    (h : OneLine l.displayText) : OneLine l.render := by
  rw [render]
  cases hsign : l.kind with
  | header => exact absurd hsign hkind
  | _ => exact oneLine_append.mpr ⟨by decide, h⟩

namespace Patch

theorem oneLine_render_linesAs {kind : LineKind} (hkind : kind ≠ .header) (text : String)
    (start length : Nat) : ∀ l ∈ linesAs kind (linesOf text) start length, OneLine l.render := by
  intro l hl
  obtain ⟨line, hline, rfl⟩ := List.mem_map.mp hl
  rw [Array.toList_extract, List.extract_eq_take_drop] at hline
  have hmem : line ∈ (linesOf text).toList := List.mem_of_mem_drop (List.mem_of_mem_take hline)
  exact PatchLine.oneLine_render hkind (oneLine_dropTerminator hmem)

theorem oneLine_render_blockLines (base proposed : String) (b : Diff.Block) :
    ∀ l ∈ blockLines (linesOf base) (linesOf proposed) b, OneLine l.render := by
  rw [blockLines]
  split
  · exact oneLine_render_linesAs (by decide) base _ _
  · refine List.forall_mem_append.mpr ⟨?_, ?_⟩
    · exact oneLine_render_linesAs (by decide) base _ _
    · exact oneLine_render_linesAs (by decide) proposed _ _

theorem oneLine_render_hunkLines (base proposed : String) (group : List Diff.Block) :
    ∀ l ∈ hunkLines (linesOf base) (linesOf proposed) group, OneLine l.render := by
  unfold hunkLines
  split
  · refine List.forall_mem_cons.mpr ⟨Header.oneLine_render _, fun l hl ↦ ?_⟩
    obtain ⟨b, -, hl⟩ := List.mem_flatMap.mp hl
    exact oneLine_render_blockLines base proposed b l hl
  · exact nofun

theorem oneLine_render_between (base proposed : String) :
    ∀ l ∈ (between base proposed).lines, OneLine l.render := by
  rw [between]
  split
  · exact nofun
  · intro l hl
    obtain ⟨group, -, hl⟩ := List.mem_flatMap.mp hl
    exact oneLine_render_hunkLines base proposed group l hl

end Patch

theorem PatchLine.oneLine_renderLines {l : PatchLine} (h : OneLine l.render) :
    ∀ line ∈ l.renderLines, OneLine line := by
  refine List.forall_mem_cons.mpr ⟨oneLine_append.mpr ⟨by decide, h⟩, ?_⟩
  split
  · exact List.forall_mem_singleton.mpr (by decide)
  · exact nofun

/-! ## Turns -/

theorem FileChange.oneLine_render_iff (c : FileChange) :
    (∀ line ∈ c.render, OneLine line) ↔ OneLine c.path := by
  rw [render, List.forall_mem_cons, and_iff_left]
  · simp +decide
  · split
    · exact List.forall_mem_singleton.mpr (by decide)
    · intro line hline
      obtain ⟨l, hl, hline⟩ := List.mem_flatMap.mp hline
      exact PatchLine.oneLine_renderLines (Patch.oneLine_render_between _ _ l hl) line hline

theorem ChangeSet.oneLine_render_iff (index : Nat) (changes : ChangeSet) :
    (∀ line ∈ changes.render index, OneLine line) ↔ ∀ path ∈ changes.paths, OneLine path := by
  rw [render, List.forall_mem_append, List.forall_mem_flatMap, and_iff_left, paths,
    List.forall_mem_map]
  · simp only [FileChange.oneLine_render_iff]
  · simp +decide

/-- Of a text under a label only the label matters. -/
theorem oneLine_labelled_iff (label text : String) :
    (∀ line ∈ labelled label text, OneLine line) ↔ OneLine label := by
  have htext := oneLine_displayLinesOf text
  rw [labelled]
  split
  next => simp +decide
  next first rest heq =>
    rw [heq] at htext
    obtain ⟨hfirst, hrest⟩ := List.forall_mem_cons.mp htext
    rw [List.forall_mem_cons, and_iff_left]
    · simp +decide [hfirst]
    · exact List.forall_mem_map.mpr fun line hline ↦
        oneLine_append.mpr ⟨by decide, hrest line hline⟩

@[simp] theorem oneLine_turnLabel_iff (index : Nat) (label : String) :
    OneLine (turnLabel index label) ↔ OneLine label := by
  simp +decide [turnLabel]

/-- The texts of a turn that are shown as they are. -/
def Turn.verbatim : Turn → List String
  | .loading hint => [hint]
  | .explanationWithChanges _ changes | .replaceFile changes | .multiFileChange _ changes =>
    changes.paths
  | .userInput _ | .explanation _ | .error _ => []

theorem Turn.oneLine_render_iff (index : Nat) (turn : Turn) :
    (∀ line ∈ turn.render index, OneLine line) ↔ ∀ text ∈ turn.verbatim, OneLine text := by
  cases turn with
  | userInput text => simp +decide [render, verbatim, oneLine_labelled_iff]
  | loading hint => simp [render, verbatim]
  | explanation text => simp +decide [render, verbatim, oneLine_labelled_iff]
  | explanationWithChanges why changes | multiFileChange why changes =>
    rw [render, List.forall_mem_append, oneLine_labelled_iff, ChangeSet.oneLine_render_iff,
      and_iff_right (by simp +decide), verbatim]
  | replaceFile changes =>
    rw [render, List.forall_mem_cons, ChangeSet.oneLine_render_iff,
      and_iff_right (by simp +decide), verbatim]
  | error message => simp +decide [render, verbatim, oneLine_labelled_iff]

theorem oneLine_renderTurns_iff (index : Nat) (turns : List Turn) :
    (∀ line ∈ renderTurns index turns, OneLine line) ↔
      ∀ turn ∈ turns, ∀ text ∈ turn.verbatim, OneLine text := by
  induction turns generalizing index with
  | nil => exact iff_of_true nofun nofun
  | cons turn turns ih =>
    rw [renderTurns, List.forall_mem_append, Turn.oneLine_render_iff, ih, List.forall_mem_cons]

namespace Session

/-! ## Sessions -/

variable {s s' : Session}

theorem oneLine_statusLine_iff (s : Session) : OneLine s.statusLine ↔ OneLine s.model := by
  rw [statusLine]
  cases s.state <;> simp +decide

/-- The entries of a session hold no end of line exactly if its model holds none, nor the texts of
its turns that are shown as they are. -/
theorem oneLine_render_iff (s : Session) : (∀ line ∈ s.render, OneLine line) ↔
    OneLine s.model ∧ ∀ turn ∈ s.turns, ∀ text ∈ turn.verbatim, OneLine text := by
  rw [render, List.forall_mem_append, oneLine_renderTurns_iff, List.forall_mem_singleton,
    oneLine_statusLine_iff, and_comm]

/-! ## Runs -/

/-- A loading mark is never an outcome, so only an accepted request makes one. -/
theorem Becomes.hints_shown (hbecomes : s.Becomes s')
    (h : ∀ hint, .loading hint ∈ s.turns → hint = s.options.loadingHint) :
    ∀ hint, .loading hint ∈ s'.turns → hint = s'.options.loadingHint := by
  rw [hbecomes.options_eq]
  intro hint hmem
  cases hbecomes with
  | same | selected | tracking => exact h hint hmem
  | unasked => exact h hint (by simpa using hmem)
  | refused => exact h hint (by simpa using hmem)
  | accepted =>
    rw [turns_waiting, turns_asking] at hmem
    rcases List.mem_append.mp hmem with hmem | hmem
    · exact h hint (by simpa using hmem)
    · exact Turn.loading.inj (List.mem_singleton.mp hmem)
  | answered houtcome =>
    rcases mem_turns_answered hmem with hmem | hturn
    · exact h hint hmem
    · rw [← hturn] at houtcome
      exact absurd houtcome.2 Bool.noConfusion
  | cleared => exact absurd hmem List.not_mem_nil

theorem hints_run (options : SessionOptions) (actions : List Action) :
    let s := ((ofOptions options).run actions).1
    ∀ hint, .loading hint ∈ s.turns → hint = s.options.loadingHint :=
  run_keeps (motive := fun s ↦ ∀ hint, .loading hint ∈ s.turns → hint = s.options.loadingHint)
    (fun _ hmem ↦ absurd hmem List.not_mem_nil) (fun _ _ h hbecomes ↦ hbecomes.hints_shown h)
    actions

theorem LogKept.exists_loading_iff (h : s.LogKept) :
    (∃ hint, .loading hint ∈ s.turns) ↔ s.isPending = true := by
  cases hflight : s.inFlight with
  | none =>
    rw [isPending, hflight]
    refine iff_of_false ?_ Bool.false_ne_true
    rintro ⟨hint, hmem⟩
    exact absurd (((logKept_idle hflight).mp h).isLoading_eq_false hmem) Bool.noConfusion
  | some f =>
    obtain ⟨-, settled, prompt, hint, -, hturns⟩ := (logKept_waiting hflight).mp h
    rw [isPending, hflight]
    refine iff_of_true ⟨hint, ?_⟩ rfl
    rw [hturns]
    simp

end Session

theorem Turn.forall_verbatim_iff (turn : Turn) : (∀ text ∈ turn.verbatim, OneLine text) ↔
    (∀ hint, turn = .loading hint → OneLine hint) ∧
      ∀ changes, turn.changeSet? = some changes → ∀ path ∈ changes.paths, OneLine path := by
  cases turn <;> simp [verbatim, changeSet?]

namespace Session

/-- **The entries of a session hold no end of line** exactly if its model holds none, nor the hint
while a request is under way, nor any path of a proposal in the log. This is so after every run.
What the user asks, what a reply explains, which errors there are and what the files hold does not
matter. -/
theorem entries_oneLine_iff (options : SessionOptions) (actions : List Action) :
    let s := ((ofOptions options).run actions).1
    (∀ line ∈ s.render, OneLine line) ↔
      OneLine s.model ∧ (s.isPending = true → OneLine options.loadingHint) ∧
        ∀ turn ∈ s.turns, ∀ changes, turn.changeSet? = some changes →
          ∀ path ∈ changes.paths, OneLine path := by
  intro s
  have hhints : ∀ hint, .loading hint ∈ s.turns → hint = s.options.loadingHint :=
    hints_run options actions
  have hpending : (∃ hint, .loading hint ∈ s.turns) ↔ s.isPending = true :=
    (logKept_run options actions).exists_loading_iff
  have hoptions : s.options = options := options_run options actions
  rw [hoptions] at hhints
  have hmarks : (∀ turn ∈ s.turns, ∀ hint, turn = .loading hint → OneLine hint) ↔
      (s.isPending = true → OneLine options.loadingHint) := by
    rw [← hpending]
    constructor
    · rintro hall ⟨hint, hmem⟩
      rw [← hhints hint hmem]
      exact hall _ hmem hint rfl
    · rintro hhint _ hmem hint rfl
      rw [hhints hint hmem]
      exact hhint ⟨hint, hmem⟩
  rw [oneLine_render_iff, ← hmarks]
  simp only [Turn.forall_verbatim_iff, forall_and]

/-- A reply gives a path with an end of line, and what stands behind it looks like an entry. -/
theorem not_entries_oneLine_forged :
    let files : MemoryFiles := { files := [("a.py", "x\n")], focus := some "a.py" }
    let value : Json := .object [("changes", .array
      [.object [("filePath", .string "a\nb"), ("newContent", .string "y\n")]]),
      ("explanation", .string "e"), ("type", .string "multi_file_change")]
    let s := ((ofOptions {}).run [.submit MemoryFiles.surface .accepting "go" files (),
      .reply MemoryFiles.surface 1 value files]).1
    ¬∀ line ∈ s.render, OneLine line := by
  decide +kernel

end Session

end Redline
