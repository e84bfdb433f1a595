import Redline.FileTree.Access

/-!
# Changing a tree

Writing a file follows links, also one whose target is missing, which it creates. Directories are
made, and files and directories removed, where the last name of a route stands, whether it is a link
or not. A change that fails leaves the tree as it was; only making a directory with those above it
can stop on the way.
-/

namespace Redline.FileTree

/-! ## The last name of a route -/

/-- The directory in which the last name of a route stands, and that name; `/` has none. -/
def directoryOf (tree : FileTree) (route : Route) : Except Fault (TreePath × Option String) := do
  if route.hasNul then .error .nulInName
  else if Route.sizeLimit ≤ route.size then .error .nameTooLong
  else match route.splitLast? with
    | none => .ok ([], none)
    | some (parent, name) =>
      match ← tree.walk linkLimit [] parent with
      | .directory here => .ok (here, some name)
      | .file _ _ _ => .error .notDirectory
      | .missing _ _ _ => .error .notFound

/-- The place of the last name of a route, which need not exist, in a directory that does. Dots are
no names; for these the error is `onDots`. -/
def entryOf (tree : FileTree) (onDots : Fault) (route : Route) : Except Fault TreePath := do
  match ← tree.directoryOf route with
  | (_, none) => .error onDots
  | (here, some name) =>
    if name = "." ∨ name = ".." then .error onDots
    else if Route.isTooLong name then .error .nameTooLong
    else .ok (here ++ [name])

/-! ## Files -/

/-- Writes a file where a route leads. A name before a slash is never that of a file. -/
def writeFile (tree : FileTree) (route : Route) (content : Content) : Except Fault FileTree := do
  if route.endsWithSlash then
    let _ ← tree.directoryOf route
    .error .isDirectory
  else match ← tree.locate route with
    | .directory _ => .error .isDirectory
    | .file _ _ true => .error .isDirectory
    | .missing _ _ true => .error .isDirectory
    | .file path _ false => .ok (tree.set path (.file content))
    | .missing parent name false => .ok (tree.set (parent ++ [name]) (.file content))

/-! ## Entries of a directory -/

def makeDirectory (tree : FileTree) (route : Route) : Except Fault FileTree := do
  let path ← tree.entryOf .alreadyExists route
  match tree.node? path with
  | some _ => .error .alreadyExists
  | none => .ok (tree.set path .directory)

def removeFile (tree : FileTree) (route : Route) : Except Fault FileTree := do
  let path ← tree.entryOf .isDirectory route
  match tree.node? path with
  | none => .error .notFound
  | some .directory => .error .isDirectory
  | some _ => if route.endsWithSlash then .error .notDirectory else .ok (tree.erase path)

def removeDirectory (tree : FileTree) (route : Route) : Except Fault FileTree := do
  let path ← tree.entryOf .invalid route
  match tree.node? path with
  | none => .error .notFound
  | some .directory => if tree.isLeaf path then .ok (tree.erase path) else .error .notEmpty
  | some _ => .error .notDirectory

/-! ## Directories with those above them -/

/-- Makes the first directory of a list unless it exists. The list goes on with the directories
above it, which are made first if they are missing. -/
def makeChain (tree : FileTree) : List Route → Except Fault Unit × FileTree
  | [] => (.ok (), tree)
  | route :: above =>
    match tree.makeDirectory route with
    | .ok tree => (.ok (), tree)
    | .error .notFound =>
      match makeChain tree above with
      | (.error e, tree) => (.error e, tree)
      | (.ok (), tree) =>
        match tree.makeDirectory route with
        | .ok tree => (.ok (), tree)
        | .error e => if tree.isDirectory route then (.ok (), tree) else (.error e, tree)
    | .error e => if tree.isDirectory route then (.ok (), tree) else (.error e, tree)

/-- Makes the directory in which the last name of a route stands, with those above it. -/
def makeParents (tree : FileTree) (route : Route) : Except Fault Unit × FileTree :=
  tree.makeChain route.above

end Redline.FileTree
