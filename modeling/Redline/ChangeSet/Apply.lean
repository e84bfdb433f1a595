import Redline.ChangeSet.Basic
import Redline.Event
import Redline.Surface.Basic

/-!
# Applying a change set

A change set is applied by one write: a single file is replaced, several files are replaced as a
batch. Before that every file is read once, and one whose content is no longer the base is reported
as drifted; this does not keep it from being overwritten.
-/

namespace Redline

/-- Why a change set was not applied. -/
inductive ApplyError
  /-- The turn proposes no changes. -/
  | noChangeSet (turn : Nat)
  /-- No turn proposes changes. -/
  | nothingToApply
  /-- The surface refused, and no file was changed. -/
  | surface (source : SurfaceError)
  /-- The surface failed to do all or nothing. -/
  | partialApply (applied : List String) (message : String)
deriving DecidableEq, Repr

namespace ApplyError

def message : ApplyError → String
  | .noChangeSet turn => "turn " ++ toString turn ++ " does not carry a change set"
  | .nothingToApply => "no turn proposes changes yet"
  | .surface source => "apply failed, no file was changed: " ++ source.message
  | .partialApply applied m =>
    "apply left the workspace partially modified (" ++ ", ".intercalate applied ++ "): " ++ m

/-- An error that says that the surface broke its promise. -/
def isContractViolation : ApplyError → Bool
  | .partialApply _ _ => true
  | _ => false

/-- The error of a write that failed. -/
def ofSurface : SurfaceError → ApplyError
  | .partialBatch applied m => .partialApply applied m
  | e => .surface e

end ApplyError

/-- What was applied. -/
structure ApplyReport where
  /-- The paths written, in order. -/
  paths : List String
  /-- The paths whose content was no longer the base. -/
  drifted : List String
deriving DecidableEq, Repr

namespace ChangeSet

variable {σ : Type}

/-- Whether the answer to reading a file shows that it is no longer what a change is meant to
replace. A file that does not exist counts as empty; one that cannot be read says nothing. -/
def isDrifted (change : FileChange) : Except SurfaceError String → Bool
  | .ok content => content != change.base
  | .error (.notFound _) => "" != change.base
  | .error _ => false

/-- The warning about a drifted file. -/
def driftWarning (path : String) : Event :=
  .warning (path ++ " changed since the proposal was made; its edits will be overwritten")

/-- Reads the files of changes in order: the paths that have drifted. -/
def detectDrift (S : Surface σ) : List FileChange → σ → List String × σ
  | [], s => ([], s)
  | change :: rest, s =>
    let (answer, s) := S.read change.path s
    let (drifted, s) := detectDrift S rest s
    (if isDrifted change answer then change.path :: drifted else drifted, s)

/-- Writes changes: one file is replaced, several are replaced as a batch. -/
def write (S : Surface σ) (changes : List FileChange) (s : σ) : Except SurfaceError Unit × σ :=
  match changes with
  | [change] => S.replace change.path change.proposed s
  | changes => S.batch (changes.map fun c ↦ ⟨c.path, c.proposed⟩) s

/-- Applies a change set. -/
def apply (S : Surface σ) (cs : ChangeSet) (s : σ) :
    Except ApplyError ApplyReport × List Event × σ :=
  let (drifted, s) := detectDrift S cs.changes s
  let warnings := drifted.map driftWarning
  match write S cs.changes s with
  | (.ok (), s) =>
    let done := Event.info ("Applied changes to " ++ toString cs.paths.length ++ " file(s): " ++
      ", ".intercalate cs.paths)
    (.ok ⟨cs.paths, drifted⟩, warnings ++ [done], s)
  | (.error e, s) =>
    let e := ApplyError.ofSurface e
    (.error e, warnings ++ [.error e.message], s)

end ChangeSet

end Redline
