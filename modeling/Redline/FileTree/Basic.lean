import Redline.Text.Utf8

/-!
# File trees

A file tree is a table of places. A place is given by the names on the way from the root to it, and
it is a directory, a file or a symbolic link. The root is a directory that stands in no table. Trees
are compared by what stands at each place; the order of the table means nothing.
-/

namespace Redline

/-- The names on the way from the root to a place. -/
abbrev TreePath := List String

/-- What a file holds: a text, or bytes that are none. -/
inductive Content
  /-- A text, in UTF-8. -/
  | text (s : String)
  /-- Bytes that are not well-formed UTF-8. -/
  | binary (bytes : List UInt8)
deriving DecidableEq, Repr

def Content.ofBytes (bytes : List UInt8) : Content :=
  match Text.decodeStrict? bytes with
  | some s => .text s
  | none => .binary bytes

def Content.bytes : Content → List UInt8
  | .text s => Text.encode s
  | .binary bytes => bytes

/-- What stands at a place. -/
inductive Node
  /-- A directory. -/
  | directory
  /-- A file. -/
  | file (content : Content)
  /-- A symbolic link. -/
  | link (target : String)
deriving DecidableEq, Repr

/-- Why an operation on a tree did not succeed. -/
inductive Fault
  | notFound
  | denied
  | alreadyExists
  | notDirectory
  | isDirectory
  | invalid
  | nameTooLong
  | notEmpty
  | tooManyLinks
  /-- A name holds a NUL character. -/
  | nulInName
  /-- A file is not a text. -/
  | notText
deriving DecidableEq, Repr

namespace Fault

/-- What a fault is called, and its number if it has one. -/
def title : Fault → String × Option Nat
  | .notFound => ("No such file or directory", some 2)
  | .denied => ("Permission denied", some 13)
  | .alreadyExists => ("File exists", some 17)
  | .notDirectory => ("Not a directory", some 20)
  | .isDirectory => ("Is a directory", some 21)
  | .invalid => ("Invalid argument", some 22)
  | .nameTooLong => ("File name too long", some 36)
  | .notEmpty => ("Directory not empty", some 39)
  | .tooManyLinks => ("Too many levels of symbolic links", some 40)
  | .nulInName => ("file name contained an unexpected NUL byte", none)
  | .notText => ("stream did not contain valid UTF-8", none)

def message (fault : Fault) : String :=
  match fault.title with
  | (name, some number) => name ++ " (os error " ++ toString number ++ ")"
  | (name, none) => name

end Fault

/-- A file tree. -/
structure FileTree where
  /-- The places below the root. -/
  entries : List (TreePath × Node)
deriving Repr, Inhabited

namespace FileTree

/-- What stands at a place. -/
def node? (tree : FileTree) (path : TreePath) : Option Node :=
  if path.isEmpty then some .directory else tree.entries.lookup path

/-- The table with a place set. -/
def setEntry (path : TreePath) (node : Node) : List (TreePath × Node) → List (TreePath × Node)
  | [] => [(path, node)]
  | (p, n) :: rest => if p = path then (path, node) :: rest else (p, n) :: setEntry path node rest

def set (tree : FileTree) (path : TreePath) (node : Node) : FileTree :=
  ⟨setEntry path node tree.entries⟩

def erase (tree : FileTree) (path : TreePath) : FileTree :=
  ⟨tree.entries.filter fun (p, _) ↦ p != path⟩

/-- Whether nothing stands below a place. -/
def isLeaf (tree : FileTree) (path : TreePath) : Bool :=
  tree.entries.all fun (p, _) ↦ p.isEmpty || p.dropLast != path

end FileTree

end Redline
