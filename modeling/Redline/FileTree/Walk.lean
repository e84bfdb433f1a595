import Redline.FileTree.Route

/-!
# Walking through a tree

A walk follows the fields of a route from a directory on. A link on the way is replaced by the route
of its target; no more than 40 links are followed on one walk, so that a cycle of links ends it. The
walk ends at a directory, at a file, or where the last name of the route is missing from its
directory.
-/

namespace Redline

/-- Where a walk ends. -/
inductive Place
  /-- At a directory. -/
  | directory (path : TreePath)
  /-- At a file; `slash` says whether a slash follows its name. -/
  | file (path : TreePath) (content : Content) (slash : Bool)
  /-- In a directory that lacks the last name; `slash` says whether a slash follows the name. -/
  | missing (parent : TreePath) (name : String) (slash : Bool)
deriving DecidableEq, Repr

/-- The place of a directory or a file. -/
def Place.existing : Place → Except Fault TreePath
  | .directory path => .ok path
  | .file path _ false => .ok path
  | .file _ _ true => .error .notDirectory
  | .missing _ _ _ => .error .notFound

namespace FileTree

/-- The most links that one walk follows. -/
def linkLimit : Nat := 40

/-- Follows fields from a directory on. A link goes to `onLink`, with the directory in which it
stands, its target and the fields after it. -/
def walkWith (tree : FileTree) (onLink : TreePath → String → Route → Except Fault Place) :
    TreePath → Route → Except Fault Place
  | here, [] => .ok (.directory here)
  | here, field :: rest =>
    if Route.isIdle field then walkWith tree onLink here rest
    else if field = ".." then walkWith tree onLink here.dropLast rest
    else if Route.isTooLong field then .error .nameTooLong
    else
      let isLast := rest.all (· == "")
      match tree.node? (here ++ [field]) with
      | some .directory => walkWith tree onLink (here ++ [field]) rest
      | some (.file content) =>
        if isLast then .ok (.file (here ++ [field]) content !rest.isEmpty) else .error .notDirectory
      | some (.link target) => onLink here target rest
      | none => if isLast then .ok (.missing here field !rest.isEmpty) else .error .notFound

/-- Follows fields from a directory on, over at most the given number of links. -/
def walk (tree : FileTree) : Nat → TreePath → Route → Except Fault Place
  | 0 => walkWith tree fun _ _ _ ↦ .error .tooManyLinks
  | links + 1 => walkWith tree fun here target rest ↦
    match target.toList with
    | '/' :: _ => walk tree links [] (Route.ofText [] target ++ rest)
    | _ => walk tree links here (Text.splitAll '/' target ++ rest)

/-- Where a route leads. -/
def follow (tree : FileTree) (route : Route) : Except Fault Place :=
  if route.hasNul then .error .nulInName else tree.walk linkLimit [] route

/-- Where a route leads that has to be written out in full. -/
def locate (tree : FileTree) (route : Route) : Except Fault Place :=
  if route.hasNul then .error .nulInName
  else if Route.sizeLimit ≤ route.size then .error .nameTooLong
  else tree.walk linkLimit [] route

end FileTree

end Redline
