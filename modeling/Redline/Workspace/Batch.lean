import Redline.Workspace.Basic

/-!
# Writing several files

Before the first of several files is written, a backup is made of each: its text, or which of the
directories above it are missing. When a write fails, the files written so far and the failing one
are restored from their backups, the last one first. Files that cannot be restored are reported.
-/

namespace Redline

/-- What a file was before a batch. -/
inductive Backup
  /-- A file with a text. -/
  | present (content : String)
  /-- Nothing; the missing directories above it are listed, the outermost first. -/
  | absent (missing : List Route)
deriving DecidableEq, Repr

/-- A file to write. -/
structure BatchTarget where
  /-- The edit. -/
  edit : FileEdit
  /-- Where its path leads. -/
  route : Route
  /-- What was there before. -/
  backup : Backup
deriving DecidableEq, Repr

namespace Workspace

/-! ## Backups -/

/-- The backup of a route. -/
def backupOf (w : Workspace) (route : Route) : Except Fault Backup :=
  if w.tree.doesExist route then
    match w.tree.readText route with
    | .ok content => .ok (.present content)
    | .error fault => .error fault
  else .ok (.absent ((Route.above route).takeWhile (!w.tree.doesExist ·)).reverse)

/-- The files of a batch with their backups, or why there is no batch. -/
def prepare (w : Workspace) : List FileEdit → Except String (List BatchTarget)
  | [] => .ok []
  | edit :: edits =>
    match w.resolveWrite edit.path with
    | .error e => .error e.message
    | .ok route =>
      match w.backupOf route with
      | .error fault => .error ("failed to back up " ++ edit.path ++ ": " ++ fault.message)
      | .ok backup =>
        match prepare w edits with
        | .error m => .error m
        | .ok targets => .ok (⟨edit, route, backup⟩ :: targets)

/-! ## Restoring -/

/-- The result of a change that may fail, with the tree after it. -/
def attempted (tree : FileTree) : Except Fault FileTree → Except Fault Unit × FileTree
  | .ok tree => (.ok (), tree)
  | .error fault => (.error fault, tree)

/-- Removes directories as far as they are empty, the last of the list first. -/
def removeDirectories (tree : FileTree) (routes : List Route) : FileTree :=
  routes.foldr (fun route tree ↦ (attempted tree (tree.removeDirectory route)).2) tree

/-- Restores a file from its backup. -/
def restore (tree : FileTree) (target : BatchTarget) : Except Fault Unit × FileTree :=
  match target.backup with
  | .present content => attempted tree (tree.writeFile target.route (.text content))
  | .absent missing =>
    let (result, tree) :=
      if tree.doesExist target.route then attempted tree (tree.removeFile target.route)
      else (.ok (), tree)
    (result, removeDirectories tree missing)

/-- Restores files in order. The paths of those that cannot be restored come in reverse. -/
def rollBack (tree : FileTree) : List BatchTarget → List String × FileTree
  | [] => ([], tree)
  | target :: targets =>
    let (result, tree) := restore tree target
    let (failed, tree) := rollBack tree targets
    match result with
    | .ok () => (failed, tree)
    | .error _ => (failed ++ [target.edit.path], tree)

/-! ## Batches -/

/-- Writes the files of a batch after those `written`, of which the last stands first. -/
def writeTargets (w : Workspace) (written : List BatchTarget) :
    List BatchTarget → Except SurfaceError Unit × Workspace
  | [] => (.ok (), w)
  | target :: targets =>
    match w.writeText target.edit.path target.edit.content with
    | (.ok (), w) => writeTargets w (target :: written) targets
    | (.error e, w) =>
      match rollBack w.tree (target :: written) with
      | ([], tree) => (.error (.batchRejected e.message), { w with tree })
      | (failed, tree) => (.error (.partialBatch failed e.message), { w with tree })

/-- Writes several files, or none of them. -/
def writeBatch (w : Workspace) (edits : List FileEdit) : Except SurfaceError Unit × Workspace :=
  match w.prepare edits with
  | .error m => (.error (.batchRejected m), w)
  | .ok targets => w.writeTargets [] targets

/-! ## The surface -/

/-- Reads a file as a surface does. -/
def readFile (w : Workspace) (path : String) : Except SurfaceError String :=
  match w.readText path with
  | .ok content => .ok content
  | .error e => .error (e.toSurfaceError path)

/-- Reads the focused file. -/
def readFocused (w : Workspace) : Except SurfaceError (Option FileSnapshot) :=
  match w.focus with
  | none => .ok none
  | some path =>
    match w.readFile path with
    | .ok content => .ok (some ⟨path, content⟩)
    | .error e => .error e

/-- Writes a file as a surface does. -/
def replaceFile (w : Workspace) (path content : String) : Except SurfaceError Unit × Workspace :=
  match w.writeText path content with
  | (.ok (), w) => (.ok (), w)
  | (.error e, w) => (.error (e.toSurfaceError path), w)

/-- A workspace as a surface. -/
def surface : Surface Workspace where
  read path w := (w.readFile path, w)
  active w := (w.readFocused, w)
  replace path content w := w.replaceFile path content
  batch edits w := w.writeBatch edits

end Workspace

end Redline
