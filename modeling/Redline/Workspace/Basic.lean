import Redline.FileTree.Change
import Redline.Surface.Basic

/-!
# Workspaces

A workspace is a directory of a file tree, its *root*, in which a session reads and writes files.
One of its files may be focused. Paths are taken relative to the root unless they are absolute.
-/

namespace Redline

/-! ## Errors -/

/-- What was being done when a fault occurred. -/
inductive WorkspaceAction
  | read
  | resolve
  | createDirectories
  | write
deriving DecidableEq, Repr

/-- The wording of an action. -/
def WorkspaceAction.name : WorkspaceAction → String
  | .read => "read"
  | .resolve => "resolve"
  | .createDirectories => "create directories for"
  | .write => "write"

/-- Why a workspace did not do what it was asked. -/
inductive WorkspaceError
  /-- The root leads nowhere. -/
  | root (path : String) (fault : Fault)
  /-- The root is no directory. -/
  | rootNotDirectory (path : String)
  /-- The path is blank. -/
  | emptyPath
  /-- The path leads out of the root. -/
  | escapesRoot (path : String)
  /-- There is no such file. -/
  | notFound (path : String)
  /-- The path does not lead to a file. -/
  | notAFile (path : String)
  /-- A fault of the tree. -/
  | io (action : WorkspaceAction) (path : String) (fault : Fault)
deriving DecidableEq, Repr

namespace WorkspaceError

/-- The wording of an error without the fault that is its cause. -/
def summary : WorkspaceError → String
  | .root path _ => "failed to resolve workspace root " ++ path
  | .rootNotDirectory path => "workspace root must be a directory: " ++ path
  | .emptyPath => "path must not be empty"
  | .escapesRoot path => "path escapes workspace root: " ++ path
  | .notFound path => "file not found: " ++ path
  | .notAFile path => "not a regular file: " ++ path
  | .io action path _ => "failed to " ++ action.name ++ " " ++ path

/-- The fault that is the cause of an error. -/
def fault? : WorkspaceError → Option Fault
  | .root _ fault => some fault
  | .io _ _ fault => some fault
  | _ => none

/-- The wording of an error. -/
def message (e : WorkspaceError) : String :=
  match e.fault? with
  | some fault => e.summary ++ ": " ++ fault.message
  | none => e.summary

/-- The error of reading a path for a fault: a missing file has an error of its own. -/
def ofReading (path : String) (fault : Fault) : WorkspaceError :=
  if fault = .notFound then .notFound path else .io .read path fault

/-- An error as the error of a surface that was asked for a path. -/
def toSurfaceError (path : String) (e : WorkspaceError) : SurfaceError :=
  match e with
  | .notFound path => .notFound path
  | .emptyPath | .escapesRoot _ | .notAFile _ => .rejected path e.message
  | .io .read _ _ => .read path e.message
  | .root _ _ | .rootNotDirectory _ | .io _ _ _ => .write path e.message

end WorkspaceError

/-! ## Workspaces -/

/-- A workspace in a file tree. -/
structure Workspace where
  /-- The tree. -/
  tree : FileTree
  /-- The place of the root. -/
  root : TreePath
  /-- The path of the focused file, relative to the root. -/
  focus : Option String := none
deriving Inhabited

namespace Workspace

/-- The workspace whose root a path leads to. A relative path starts at `base`; an empty one leads
nowhere. -/
def ofPath (tree : FileTree) (base : TreePath) (path : String) : Except WorkspaceError Workspace :=
  match if path.isEmpty then .error .notFound else tree.realPath (Route.ofText base path) with
  | .error fault => .error (.root path fault)
  | .ok root =>
    if tree.node? root = some .directory then .ok { tree, root }
    else .error (.rootNotDirectory (Route.text root))

/-- The route of a path in a workspace. -/
def route (w : Workspace) (path : String) : Route := Route.ofText w.root path

/-- Whether a place is the root or stands below it. -/
def holds (w : Workspace) (path : TreePath) : Bool := w.root.isPrefixOf path

/-! ## Reading -/

/-- The place of an existing path, which must be in the workspace. -/
def resolveExisting (w : Workspace) (path : String) : Except WorkspaceError TreePath :=
  if Text.isBlankText path then .error .emptyPath
  else match w.tree.realPath (w.route path) with
    | .error fault => .error (.ofReading path fault)
    | .ok place => if w.holds place then .ok place else .error (.escapesRoot path)

/-- Reads a file. -/
def readText (w : Workspace) (path : String) : Except WorkspaceError String := do
  let place ← w.resolveExisting path
  if w.tree.isFile place then
    match w.tree.readText place with
    | .ok content => .ok content
    | .error fault => .error (.ofReading path fault)
  else .error (.notAFile path)

/-- The path of a place relative to the root. -/
def relative (w : Workspace) (place : TreePath) : String :=
  Text.joinWith "/" (place.drop w.root.length)

/-- Focuses an existing file. Its path relative to the root is the answer. -/
def focusOn (w : Workspace) (path : String) : Except WorkspaceError (String × Workspace) := do
  let place ← w.resolveExisting path
  if w.tree.isFile place then .ok (w.relative place, { w with focus := some (w.relative place) })
  else .error (.notAFile path)

/-- The workspace without a focused file. -/
def unfocus (w : Workspace) : Workspace := { w with focus := none }

/-! ## Writing -/

/-- The place of the innermost of some routes that leads to something. -/
def anchor (tree : FileTree) : List Route → Except Fault TreePath
  | [] => .error .notFound
  | route :: above => if tree.doesExist route then tree.realPath route else anchor tree above

/-- The route of a path to write. It must not go up, nor lead to a directory, and what exists of it
must be in the workspace. -/
def resolveWrite (w : Workspace) (path : String) : Except WorkspaceError Route :=
  let route := w.route path
  if Text.isBlankText path then .error .emptyPath
  else if Route.goesUp route then .error (.escapesRoot path)
  else if w.tree.isDirectory route then .error (.notAFile path)
  else match anchor w.tree (route :: Route.above route) with
    | .error fault => .error (.io .resolve path fault)
    | .ok place => if w.holds place then .ok route else .error (.escapesRoot path)

/-- Writes a file, making the directories above it that are missing. -/
def writeText (w : Workspace) (path content : String) : Except WorkspaceError Unit × Workspace :=
  match w.resolveWrite path with
  | .error e => (.error e, w)
  | .ok route =>
    match w.tree.makeParents route with
    | (.error fault, tree) => (.error (.io .createDirectories path fault), { w with tree })
    | (.ok (), tree) =>
      match tree.writeFile route (.text content) with
      | .error fault => (.error (.io .write path fault), { w with tree })
      | .ok tree => (.ok (), { w with tree })

end Workspace

end Redline
