import Redline.Event
import Redline.Surface.Basic
import Redline.Text.Path

/-!
# Context files

Besides the active file a request carries the files that the user has added to its context. The
store keeps their paths in the order in which they were added; contents are read when a request is
made and never kept. A *snapshot* holds what was read for one request.
-/

namespace Redline

open Redline.Text

/-! ## Snapshots -/

/-- The contents gathered for one request. -/
structure ContextSnapshot where
  /-- The active file. -/
  active : FileSnapshot
  /-- The context files that could be read, in the order in which they were added. -/
  files : List FileSnapshot
deriving DecidableEq, Repr

namespace ContextSnapshot

/-- The content captured for a path, the active file first. Paths are compared by their normal
forms. -/
def lookup? (snapshot : ContextSnapshot) (path : String) : Option String :=
  let path := normalizePath path
  if normalizePath snapshot.active.path = path then some snapshot.active.content
  else (snapshot.files.find? fun f ↦ normalizePath f.path == path).map FileSnapshot.content

/-- The snapshot with another active file. -/
def withActive (snapshot : ContextSnapshot) (active : FileSnapshot) : ContextSnapshot :=
  { snapshot with active := active }

end ContextSnapshot

/-! ## The store -/

/-- The paths of the context files, each the normal form of the spelling with which it was added. -/
structure ContextStore where
  /-- The paths, in the order of their addition. -/
  paths : List String := []
deriving DecidableEq, Repr

namespace ContextStore

def contains (store : ContextStore) (path : String) : Bool :=
  store.paths.contains (normalizePath path)

/-- Tracks a path: the answer is false, and nothing changes, when its normal form is blank or
tracked already. -/
def add (store : ContextStore) (path : String) : Bool × ContextStore :=
  let path := normalizePath path
  if isBlankText path || store.contains path then (false, store)
  else (true, ⟨store.paths ++ [path]⟩)

/-- Stops tracking a path: the answer says whether it was tracked. -/
def remove (store : ContextStore) (path : String) : Bool × ContextStore :=
  let kept := store.paths.filter fun p ↦ p != normalizePath path
  (kept.length != store.paths.length, ⟨kept⟩)

variable {σ : Type}

/-- Reads files in order. One that cannot be read is left out with a warning. -/
def readAll (S : Surface σ) : List String → σ → List FileSnapshot × List Event × σ
  | [], s => ([], [], s)
  | path :: paths, s =>
    match S.read path s with
    | (.ok content, s) =>
      let (files, events, s) := readAll S paths s
      (⟨path, content⟩ :: files, events, s)
    | (.error e, s) =>
      let (files, events, s) := readAll S paths s
      (files, .warning ("Skipping context file " ++ path ++ ": " ++ e.message) :: events, s)

/-- Reads the tracked files beside an active file, which is not read a second time. -/
def snapshot (S : Surface σ) (store : ContextStore) (active : FileSnapshot) (s : σ) :
    ContextSnapshot × List Event × σ :=
  let (files, events, s) :=
    readAll S (store.paths.filter fun p ↦ p != normalizePath active.path) s
  (⟨active, files⟩, events, s)

end ContextStore

end Redline
