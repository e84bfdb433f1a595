import Redline.ChangeSet.Apply
import Redline.Proofs.Session.Submission

/-!
# What a session does to its surface

A session reads files when a prompt is submitted and when a reply arrives, and writes them only when
a change set is applied. So a surface that is not changed by reading is changed by applying only,
and then by the change set of one turn: the one that is asked for, or else the latest that has one.
-/

namespace Redline

/-- A surface that is not changed by being read. -/
structure Surface.ReadsOnly {σ : Type} (S : Surface σ) : Prop where
  read : ∀ path s, (S.read path s).2 = s
  active : ∀ s, (S.active s).2 = s

variable {σ δ : Type} {S : Surface σ}

/-! ## Reading -/

namespace ContextStore

theorem readAll_surface (h : S.ReadsOnly) (paths : List String) (s : σ) :
    (readAll S paths s).2.2 = s := by
  induction paths with
  | nil => rfl
  | cons path paths ih =>
    have hread := h.read path s
    rw [readAll]
    split
    next content s' hanswer =>
      rw [hanswer] at hread
      obtain rfl := hread
      exact ih
    next e s' hanswer =>
      rw [hanswer] at hread
      obtain rfl := hread
      exact ih

theorem snapshot_surface (h : S.ReadsOnly) (store : ContextStore) (active : FileSnapshot) (s : σ) :
    (store.snapshot S active s).2.2 = s := readAll_surface h _ s

end ContextStore

namespace Session

variable {s : Session} {turn : Option Nat} {changes other : ChangeSet}

theorem submit_surface (h : S.ReadsOnly) (D : Dispatcher δ) (text : String) (s : Session)
    (surface : σ) (dispatcher : δ) : (s.submit S D text surface dispatcher).surface = surface := by
  have hend := submission S D text s surface dispatcher
  generalize s.submit S D text surface dispatcher = r at hend
  -- What was read last leaves the surface that the submission leaves.
  have hread : ∀ active snapshot warnings surface',
      s.context.snapshot S active (S.active surface).2 = (snapshot, warnings, surface') →
        surface' = surface := by
    intro active snapshot warnings surface' hsnapshot
    have hsame := s.context.snapshot_surface h active (S.active surface).2
    rw [hsnapshot, h.active] at hsame
    exact hsame
  cases hend with
  | blank | busy => rfl
  | unasked => exact h.active surface
  | refused active snapshot warnings surface' message d hblank hidle hactive hsnapshot hanswer =>
    exact hread active snapshot warnings surface' hsnapshot
  | accepted active snapshot warnings surface' d hblank hidle hactive hsnapshot hanswer =>
    exact hread active snapshot warnings surface' hsnapshot

theorem readAgain_surface (h : S.ReadsOnly) (active : FileSnapshot) (surface : σ) :
    (readAgain S active surface).2.2 = surface := by
  have hread := h.read active.path surface
  rw [readAgain]
  split
  next content surface' hanswer => rwa [hanswer] at hread
  next e surface' hanswer => rwa [hanswer] at hread

theorem onReply_surface (h : S.ReadsOnly) (generation : Generation) (value : Json) (s : Session)
    (surface : σ) : (s.onReply S generation value surface).2.2.2 = surface := by
  rw [onReply]
  split
  next => rfl
  next f s' htake => exact readAgain_surface h f.active surface

/-! ## Applying -/

/-- The change set that is asked for: that of the turn with the given index, or else that of the
latest turn that has one. -/
inductive Selects (s : Session) : Option Nat → ChangeSet → Prop
  /-- The turn with the given index has the change set. -/
  | given {i : Nat} {t : Turn} {changes : ChangeSet} : s.turns[i]? = some t →
    t.changeSet? = some changes → Selects s (some i) changes
  /-- A turn has the change set, and no later turn has one. -/
  | latest {front back : List Turn} {t : Turn} {changes : ChangeSet} :
    s.turns = front ++ t :: back → t.changeSet? = some changes →
      (∀ u ∈ back, u.changeSet? = none) → Selects s none changes

theorem lastProposal?_eq_none {turns : List Turn} (h : ∀ t ∈ turns, t.changeSet? = none)
    (start : Nat) : lastProposal? start turns = none := by
  induction turns generalizing start with
  | nil => rfl
  | cons t turns ih =>
    obtain ⟨ht, hturns⟩ := List.forall_mem_cons.mp h
    simp only [lastProposal?, ih hturns, ht, Option.isSome_none, Bool.false_eq_true, if_false]

theorem lastProposal?_append_cons {front back : List Turn} {t : Turn}
    (ht : t.changeSet? = some changes) (hback : ∀ u ∈ back, u.changeSet? = none) (start : Nat) :
    lastProposal? start (front ++ t :: back) = some (start + front.length) := by
  induction front generalizing start with
  | nil =>
    simp only [List.nil_append, lastProposal?, lastProposal?_eq_none hback, ht, Option.isSome_some,
      if_true, List.length_nil, Nat.add_zero]
  | cons u front ih =>
    simp only [List.cons_append, lastProposal?, ih, List.length_cons, Nat.add_assoc,
      Nat.add_comm 1]

theorem last_cases (turns : List Turn) : (∀ t ∈ turns, t.changeSet? = none) ∨
    ∃ front t back changes, turns = front ++ t :: back ∧ t.changeSet? = some changes ∧
      ∀ u ∈ back, u.changeSet? = none := by
  induction turns with
  | nil => exact .inl nofun
  | cons t turns ih =>
    rcases ih with hnone | ⟨front, u, back, changes, rfl, hu, hback⟩
    · cases ht : t.changeSet? with
      | none => exact .inl (List.forall_mem_cons.mpr ⟨ht, hnone⟩)
      | some changes => exact .inr ⟨[], t, turns, changes, rfl, ht, hnone⟩
    · exact .inr ⟨t :: front, u, back, changes, rfl, hu, hback⟩

theorem applyTurn_of_changeSet? {i : Nat} (h : s.changeSet? i = some changes) (S : Surface σ)
    (surface : σ) : s.applyTurn S i surface = changes.apply S surface := by
  rw [applyTurn, h]

/-- Applies the change set that is asked for. -/
def applyAny (S : Surface σ) (turn : Option Nat) (s : Session) (surface : σ) :
    Except ApplyError ApplyReport × List Event × σ :=
  match turn with
  | some i => s.applyTurn S i surface
  | none => s.applyLatest S surface

theorem Selects.applyAny_eq (h : s.Selects turn changes) (S : Surface σ) (surface : σ) :
    s.applyAny S turn surface = changes.apply S surface := by
  cases h with
  | @given i t _ hturn ht =>
    refine applyTurn_of_changeSet? ?_ S surface
    rw [changeSet?, hturn, Option.bind_some, ht]
  | @latest front back t _ hturns ht hback =>
    have hlatest : s.latestProposal? = some front.length := by
      rw [latestProposal?, hturns, lastProposal?_append_cons ht hback, Nat.zero_add]
    have hchanges : s.changeSet? front.length = some changes := by
      rw [changeSet?, hturns, List.getElem?_append_right (Nat.le_refl _), Nat.sub_self,
        List.getElem?_cons_zero, Option.bind_some, ht]
    simp only [applyAny, applyLatest, hlatest]
    exact applyTurn_of_changeSet? hchanges S surface

theorem applyAny_cases (S : Surface σ) (turn : Option Nat) (s : Session) (surface : σ) :
    (∃ changes, s.Selects turn changes) ∨
      ∃ e, s.applyAny S turn surface = (.error e, [], surface) := by
  cases turn with
  | some i =>
    cases hchanges : s.changeSet? i with
    | none =>
      right
      exact ⟨.noChangeSet i, by simp only [applyAny, applyTurn, hchanges]⟩
    | some changes =>
      left
      obtain ⟨t, hturn, ht⟩ := Option.bind_eq_some_iff.mp hchanges
      exact ⟨changes, .given hturn ht⟩
  | none =>
    rcases last_cases s.turns with hnone | ⟨front, t, back, changes, hturns, ht, hback⟩
    · right
      refine ⟨.nothingToApply, ?_⟩
      simp only [applyAny, applyLatest, latestProposal?, lastProposal?_eq_none hnone]
    · exact .inl ⟨changes, .latest hturns ht hback⟩

end Session

end Redline
