import Redline.Http.Url.Scheme
import Redline.Text.Percent

/-!
# Paths of addresses

A path is a list of segments. The segments `.` and `..`, of which the dots may be escaped, are
resolved while the path is read, so that a path is written in one way only. A segment that looks
like a drive letter, such as `C:` or `C|`, is not left by `..`.
-/

namespace Redline.Http.Path

open Redline.Text

/-! ## Segments -/

/-- A segment with its escaped dots made plain. -/
def plainDots : List Char → List Char
  | '%' :: '2' :: e :: rest => if e = 'e' ∨ e = 'E' then '.' :: plainDots rest
    else '%' :: '2' :: e :: plainDots rest
  | c :: rest => c :: plainDots rest
  | [] => []

def isHere (segment : List Char) : Bool := plainDots segment == ['.']

/-- A segment that stands for the one above. -/
def isAbove (segment : List Char) : Bool := plainDots segment == ['.', '.']

def isDriveMark (c : Char) : Bool := c == ':' || c == '|'

def isDrive : List Char → Bool
  | [letter, mark] => letter.isAlpha && isDriveMark mark
  | _ => false

/-- A segment that is not left: a drive letter, alone or before a backslash. -/
def isKept : List Char → Bool
  | letter :: mark :: rest => isDrive [letter, mark] && rest.head?.all (· == '\\')
  | _ => false

/-- The segments above; the last segment is the first of the list. -/
def above : List (List Char) → List (List Char)
  | [] => []
  | last :: before => if isKept last then last :: before else before

/-- The segments with `.` and `..` resolved, after those already resolved, which stand in reverse.
-/
def resolve (resolved : List (List Char)) : List (List Char) → List (List Char)
  | [] => resolved.reverse
  | [last] =>
    if isAbove last then ([] :: above resolved).reverse
    else if isHere last then ([] :: resolved).reverse
    else (last :: resolved).reverse
  | segment :: rest =>
    if isAbove segment then resolve (above resolved) rest
    else if isHere segment then resolve resolved rest
    else resolve (segment :: resolved) rest

/-- The segments that the characters after the first slash denote. -/
def segments (scheme : Scheme) (cs : List Char) : List (List Char) :=
  resolve [] (fields '/' (cs.map fun c ↦ if scheme.isSlash c then '/' else c))

/-! ## Writing -/

/-- A character that is escaped in a fragment. -/
def isUnsafeInFragment (c : Char) : Bool := " \"<>\x60".toList.contains c

/-- A character that is escaped in a path. -/
def isUnsafe (c : Char) : Bool := isUnsafeInFragment c || "#?\x7b\x7d".toList.contains c

/-- The path of some segments. -/
def ofSegments (parts : List (List Char)) : List Char :=
  '/' :: ['/'].intercalate (parts.map (percentEncode isUnsafe))

/-- The path that the characters after the first slash denote. -/
def ofChars (scheme : Scheme) (cs : List Char) : List Char := ofSegments (segments scheme cs)

/-- The characters without the slash at their front, if there is one. -/
def dropSlash (scheme : Scheme) : List Char → List Char
  | [] => []
  | c :: cs => if scheme.isSlash c then cs else c :: cs

/-- The path after a host. -/
def afterHost (scheme : Scheme) (cs : List Char) : List Char :=
  if cs.isEmpty && !scheme.isGenerous then [] else ofChars scheme (dropSlash scheme cs)

/-! ## Paths of files -/

/-- The segments of a file with the usual mark after a drive letter at the front, and whether there
is one. -/
def markDrive : List (List Char) → List (List Char) × Bool
  | [] => ([], false)
  | first :: rest => if isDrive first then ((first.take 1 ++ [':']) :: rest, true)
    else (first :: rest, false)

/-- The path of a file, and whether it begins with a drive letter. Slashes at the front count once.
-/
def ofFile (scheme : Scheme) (cs : List Char) : List Char × Bool :=
  let (parts, hasDrive) := markDrive (segments scheme cs)
  ('/' :: (ofSegments parts).dropWhile (· == '/'), hasDrive)

end Redline.Http.Path
