import Redline.Proofs.ChangeSet.Memory
import Redline.Proofs.Surface.Watched

/-!
# What applying a change set does to a surface

Nothing is assumed about the surface here. It may answer any call with anything, and differently
each time. What is done to it is seen from its calls: first every file of the change set is read, in
order, then there is one write, and that is all, whatever the answers are.

The answers to the reads decide what is reported as drifted, and nothing else. The answer to the
write decides whether the change set is applied.
-/

namespace Redline.ChangeSet

variable {σ : Type}

/-! ## Drift -/

/-- The answer to reading its file shows that a change is not made to what it is meant to replace.
-/
inductive Drifted (c : FileChange) : Except SurfaceError String → Prop
  /-- The file has another content. -/
  | edited {content : String} : content ≠ c.base → Drifted c (.ok content)
  /-- The file is gone, although it is meant to have a content. -/
  | missing (path : String) : c.base ≠ "" → Drifted c (.error (.notFound path))

theorem isDrifted_iff {c : FileChange} {answer : Except SurfaceError String} :
    isDrifted c answer = true ↔ Drifted c answer := by
  constructor
  · intro h
    match answer with
    | .ok content => exact .edited (bne_iff_ne.mp h)
    | .error (.notFound path) => exact .missing path (bne_iff_ne.mp h).symm
    | .error (.read ..) | .error (.write ..) | .error (.rejected ..) | .error (.batchRejected ..)
    | .error (.partialBatch ..) => exact absurd h Bool.false_ne_true
  · intro h
    cases h with
    | edited hne => exact bne_iff_ne.mpr hne
    | missing path hne => exact bne_iff_ne.mpr hne.symm

instance (c : FileChange) (answer : Except SurfaceError String) : Decidable (Drifted c answer) :=
  decidable_of_iff _ isDrifted_iff

/-- The paths of the changes that have drifted according to the answers to reading their files, in
order. -/
def driftedPaths (changes : List FileChange) (answers : List (Except SurfaceError String)) :
    List String :=
  ((changes.zip answers).filter fun read ↦ Drifted read.1 read.2).map fun read ↦ read.1.path

theorem detectDrift_eq_readEach (S : Surface σ) (changes : List FileChange) (s : σ) :
    detectDrift S changes s =
      (driftedPaths changes (S.readEach (changes.map FileChange.path) s).1,
        (S.readEach (changes.map FileChange.path) s).2) := by
  induction changes generalizing s with
  | nil => rfl
  | cons c changes ih =>
    simp only [detectDrift, ih, List.map_cons, S.readEach_cons, driftedPaths, List.zip_cons_cons,
      List.filter_cons, isDrifted_iff, decide_eq_true_eq]
    split
    · rfl
    · rfl

/-! ## The write -/

/-- The call that writes changes, with its answer: one file is replaced, several are a batch. -/
inductive Writes : List FileChange → Except SurfaceError Unit → Access → Prop
  | one (c : FileChange) (written : Except SurfaceError Unit) :
    Writes [c] written (.replace c.path c.proposed written)
  | several {changes : List FileChange} (written : Except SurfaceError Unit) :
    2 ≤ changes.length → Writes changes written (.batch (changes.map editOf) written)

theorem exists_writes {changes : List FileChange} (hne : changes ≠ []) (S : Surface σ) (s : σ)
    (log : List Access) :
    ∃ call, Writes changes (write S changes s).1 call ∧ write S.watched changes (s, log) =
      ((write S changes s).1, (write S changes s).2, log ++ [call]) := by
  match changes with
  | [] => exact absurd rfl hne
  | [c] => exact ⟨_, .one c _, rfl⟩
  | _ :: _ :: _ => exact ⟨_, .several _ (Nat.le_add_left 2 _), rfl⟩

/-- What is reported of the answer to the write, as a result and as the last event. -/
inductive Reports (cs : ChangeSet) (drifted : List String) :
    Except SurfaceError Unit → Except ApplyError ApplyReport → Event → Prop
  /-- All files are written. -/
  | done (message : String) :
    Reports cs drifted (.ok ()) (.ok ⟨cs.paths, drifted⟩) (.info message)
  /-- The surface has written some of the files only, and says which. -/
  | partly (applied : List String) (message : String) :
    Reports cs drifted (.error (.partialBatch applied message))
      (.error (.partialApply applied message))
      (.error (ApplyError.partialApply applied message).message)
  /-- The surface has refused. -/
  | refused (e : SurfaceError) : (∀ applied message, e ≠ .partialBatch applied message) →
    Reports cs drifted (.error e) (.error (.surface e)) (.error (ApplyError.surface e).message)

theorem reports_ofSurface (cs : ChangeSet) (drifted : List String) (e : SurfaceError) :
    Reports cs drifted (.error e) (.error (.ofSurface e))
      (.error (ApplyError.ofSurface e).message) := by
  cases e with
  | partialBatch applied message => exact .partly applied message
  | _ => exact .refused _ nofun

/-! ## The protocol -/

/-- What applying a change set does to a surface and what it returns, given the answers to the reads
and to the write. -/
structure Protocol (cs : ChangeSet) (answers : List (Except SurfaceError String))
    (written : Except SurfaceError Unit) (accesses : List Access)
    (result : Except ApplyError ApplyReport) (events : List Event) : Prop where
  answered : answers.length = cs.changes.length
  /-- Every file is read once, in order, and then there is one write. -/
  accesses_eq : ∃ call, Writes cs.changes written call ∧
    accesses = List.zipWith .read cs.paths answers ++ [call]
  /-- There is one warning for each drifted path, in order, and then what became of the write. -/
  events_eq : ∃ last, Reports cs (driftedPaths cs.changes answers) written result last ∧
    events = (driftedPaths cs.changes answers).map driftWarning ++ [last]

/-- **A change set is applied by one read of each file and one write**, on any surface, and what is
returned follows from the answers. -/
theorem apply_protocol (S : Surface σ) (cs : ChangeSet) (s : σ) (log : List Access) :
    let (result, events, after) := cs.apply S s
    ∃ answers written accesses,
      cs.apply S.watched (s, log) = (result, events, after, log ++ accesses) ∧
        cs.Protocol answers written accesses result events := by
  have hlength := S.length_readEach (cs.changes.map FileChange.path) s
  have hwatched := S.readEach_watched (cs.changes.map FileChange.path) s log
  simp only [apply, detectDrift_eq_readEach, hwatched]
  generalize S.readEach (cs.changes.map FileChange.path) s = row at hlength
  obtain ⟨answers, s'⟩ := row
  rw [List.length_map] at hlength
  obtain ⟨call, hcall, hwrite⟩ := exists_writes cs.nonempty S s'
    (log ++ List.zipWith .read (cs.changes.map FileChange.path) answers)
  rw [hwrite]
  generalize write S cs.changes s' = w at hcall
  obtain ⟨e | ⟨⟩, after⟩ := w
  · refine ⟨answers, .error e, _, ?_, hlength, ⟨call, hcall, rfl⟩, _, ?_, rfl⟩
    · rw [List.append_assoc]
      rfl
    · exact reports_ofSurface cs _ e
  · refine ⟨answers, .ok (), _, ?_, hlength, ⟨call, hcall, rfl⟩, _, .done _, rfl⟩
    rw [List.append_assoc]
    rfl

end Redline.ChangeSet
