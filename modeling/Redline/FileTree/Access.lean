import Redline.FileTree.Walk

/-!
# Looking at a tree

What a route leads to, after all links: whether it exists, whether it is a directory, its place
without links, and the text of a file.
-/

namespace Redline.FileTree

/-- The place without links to which a route leads. -/
def realPath (tree : FileTree) (route : Route) : Except Fault TreePath := do
  (← tree.follow route).existing

def doesExist (tree : FileTree) (route : Route) : Bool :=
  match tree.locate route with
  | .ok place => place.existing.isOk
  | .error _ => false

def isDirectory (tree : FileTree) (route : Route) : Bool :=
  match tree.locate route with
  | .ok (.directory _) => true
  | _ => false

def isFile (tree : FileTree) (route : Route) : Bool :=
  match tree.locate route with
  | .ok (.file _ _ false) => true
  | _ => false

def readBytes (tree : FileTree) (route : Route) : Except Fault Content := do
  match ← tree.locate route with
  | .directory _ => .error .isDirectory
  | .file _ content false => .ok content
  | .file _ _ true => .error .notDirectory
  | .missing _ _ _ => .error .notFound

def readText (tree : FileTree) (route : Route) : Except Fault String := do
  match ← tree.readBytes route with
  | .text s => .ok s
  | .binary _ => .error .notText

end Redline.FileTree
