import Redline.FileTree.Basic
import Redline.Text.Split

/-!
# Routes

A route is the spelling of an absolute path: the fields between the slashes after the first. Empty
fields and single dots are part of the spelling and lead nowhere, two dots lead up, every other
field is a name. What a route leads to depends on the tree, since a name can be that of a link.
-/

namespace Redline

/-- The fields between the slashes of an absolute path, after its first slash. -/
abbrev Route := List String

namespace Route

/-- The route of a path, which starts at `base` unless it begins with a slash. -/
def ofText (base : TreePath) (path : String) : Route :=
  match path.toList with
  | '/' :: rest => (Text.fields '/' rest).map String.ofList
  | _ => base ++ Text.splitAll '/' path

def text (route : Route) : String := "/" ++ Text.joinWith "/" route

/-- A field that leads nowhere. -/
def isIdle (field : String) : Bool := field == "" || field == "."

def goesUp (route : Route) : Bool := route.contains ".."

def endsWithSlash (route : Route) : Bool := route.getLast? == some ""

/-- The routes above a route, the innermost first, from its fields in reverse. -/
def aboveReversed : List String → List Route
  | [] => []
  | field :: rest =>
    if isIdle field then aboveReversed rest
    else (rest.dropWhile isIdle).reverse :: aboveReversed rest

/-- The routes above a route, the innermost first: those left when names are dropped at its end. -/
def above (route : Route) : List Route := aboveReversed route.reverse

/-- The fields before the last one that is not empty, and that one. -/
def splitLast? (route : Route) : Option (Route × String) :=
  match route.reverse.dropWhile (· == "") with
  | [] => none
  | last :: rest => some (rest.reverse, last)

/-- The most bytes that a name may have. -/
def nameLimit : Nat := 255

/-- The number of bytes that a route must stay below. -/
def sizeLimit : Nat := 4096

/-- A name that is too long to stand in a tree. -/
def isTooLong (name : String) : Bool := nameLimit < name.utf8ByteSize

def size : Route → Nat
  | [] => 0
  | field :: rest => field.utf8ByteSize + 1 + size rest

def hasNul (route : Route) : Bool := route.any fun field ↦ field.toList.any (·.toNat == 0)

end Route

end Redline
