import Redline.Proofs.Diff.Settle

/-!
# Settling step by step

All that settling does to a script is done by eight kinds of steps of a change on the move. They are
said once, by `Focus.Step`; what every step keeps of a script, settling keeps.
-/

namespace Redline.Diff

variable {α : Type} {old new : Array α}

/-! ## The steps of settling -/

namespace Focus

variable [BEq α]

/-- One step of a change on the move. -/
inductive Step (old new : Array α) : Focus → Focus → Prop
  /-- It slides up over equal lines. -/
  | slideUp {prev edit : Edit} {before after : List Edit} {n : Nat} : prev.kind = .equal →
    n = slackUp old new prev edit → 0 < n →
    Step old new ⟨prev :: before, edit, after⟩
      ⟨consNonempty (prev.dropRight n) before, edit.shiftLeft n, lengthenAfter prev edit n after⟩
  /-- It passes an empty equal run on its way up, which is dropped. -/
  | dropUp {prev edit : Edit} {before after : List Edit} : prev.kind = .equal →
    prev.isEmpty = true → Step old new ⟨prev :: before, edit, after⟩ ⟨before, edit, after⟩
  /-- It takes in the change of its kind before it. -/
  | mergeUp {prev edit : Edit} {before after : List Edit} : prev.kind ≠ .equal →
    prev.kind = edit.kind →
    Step old new ⟨prev :: before, edit, after⟩ ⟨before, prev.growRight edit.length, after⟩
  /-- It changes places with the change of the other kind before it. -/
  | swapUp {prev edit : Edit} {before after : List Edit} : prev.kind ≠ .equal →
    edit.kind ≠ .equal → prev.kind ≠ edit.kind →
    Step old new ⟨prev :: before, edit, after⟩ ⟨before, edit, prev :: after⟩
  | slideDown {edit next : Edit} {before after : List Edit} {n : Nat} : next.kind = .equal →
    n = slackDown old new edit next → 0 < n →
    Step old new ⟨before, edit, next :: after⟩
      ⟨lengthenBefore edit next n before, edit.shiftRight n, consNonempty (next.dropLeft n) after⟩
  | dropDown {edit next : Edit} {before after : List Edit} : next.kind = .equal →
    next.isEmpty = true → Step old new ⟨before, edit, next :: after⟩ ⟨before, edit, after⟩
  | mergeDown {edit next : Edit} {before after : List Edit} : next.kind ≠ .equal →
    next.kind = edit.kind →
    Step old new ⟨before, edit, next :: after⟩ ⟨before, edit.growRight next.length, after⟩
  | swapDown {edit next : Edit} {before after : List Edit} : edit.kind ≠ .equal →
    next.kind ≠ .equal → next.kind ≠ edit.kind →
    Step old new ⟨before, edit, next :: after⟩ ⟨next :: before, edit, after⟩

end Focus

section

variable [BEq α] {motive : Focus → Prop}

theorem moveUp_induction (hstep : ∀ f f', Focus.Step old new f f' → motive f → motive f')
    (before : List Edit) (edit : Edit) (after : List Edit) (hchange : edit.kind ≠ .equal)
    (h : motive ⟨before, edit, after⟩) :
    motive (moveUp old new before edit after) ∧
      (moveUp old new before edit after).edit.kind ≠ .equal := by
  fun_induction moveUp old new before edit after with
  | case1 edit after => exact ⟨h, hchange⟩
  | case2 edit after prev rest hprev n hpos ih =>
    exact ih hchange (hstep _ _ (.slideUp hprev rfl hpos) h)
  | case3 edit after prev rest hprev n hpos hempty ih =>
    exact ih hchange (hstep _ _ (.dropUp hprev hempty) h)
  | case4 edit after prev rest hprev n hpos hempty => exact ⟨h, hchange⟩
  | case5 edit after prev rest hprev hkind ih =>
    exact ih hprev (hstep _ _ (.mergeUp hprev hkind) h)
  | case6 edit after prev rest hprev hkind ih =>
    exact ih hchange (hstep _ _ (.swapUp hprev hchange hkind) h)

theorem moveDown_induction (hstep : ∀ f f', Focus.Step old new f f' → motive f → motive f')
    (before : List Edit) (edit : Edit) (after : List Edit) (hchange : edit.kind ≠ .equal)
    (h : motive ⟨before, edit, after⟩) : motive (moveDown old new before edit after) := by
  fun_induction moveDown old new before edit after with
  | case1 before edit => exact h
  | case2 before edit next rest hnext n hpos ih =>
    exact ih hchange (hstep _ _ (.slideDown hnext rfl hpos) h)
  | case3 before edit next rest hnext n hpos hempty ih =>
    exact ih hchange (hstep _ _ (.dropDown hnext hempty) h)
  | case4 before edit next rest hnext n hpos hempty => exact h
  | case5 before edit next rest hnext hkind ih =>
    exact ih hchange (hstep _ _ (.mergeDown hnext hkind) h)
  | case6 before edit next rest hnext hkind ih =>
    exact ih hchange (hstep _ _ (.swapDown hchange hnext hkind) h)

variable {motive : List Edit → Prop}

theorem settleKind_induction
    (hstep : ∀ f f', Focus.Step old new f f' → motive f.script → motive f'.script)
    {kind : EditKind} (hkind : kind ≠ .equal) (fuel : Nat) (before rest : List Edit)
    (h : motive (before.reverse ++ rest)) : motive (settleKind old new kind fuel before rest) := by
  fun_induction settleKind old new kind fuel before rest with
  | case1 before rest => exact h
  | case2 fuel before => rwa [List.append_nil] at h
  | case3 fuel before e rest he up down ih =>
    obtain ⟨hup, hchange⟩ := moveUp_induction hstep before e rest (he ▸ hkind) h
    have hdown : motive down.script :=
      moveDown_induction hstep up.before up.edit up.after hchange hup
    refine ih ?_
    rwa [List.reverse_cons, List.append_assoc, List.singleton_append]
  | case4 fuel before e rest he ih =>
    refine ih ?_
    rwa [List.reverse_cons, List.append_assoc, List.singleton_append]

/-- **What every step keeps is kept by settling.** -/
theorem settle_induction
    (hstep : ∀ f f', Focus.Step old new f f' → motive f.script → motive f'.script)
    {script : List Edit} (h : motive script) : motive (settle old new script) :=
  settleKind_induction hstep (by decide) _ _ _ (settleKind_induction hstep (by decide) _ _ _ h)

end

end Redline.Diff
