import Redline.Text.Split

/-!
# Spellings of a path

Two spellings name the same file of the request context when their *normal forms* agree: without
white space around them, without empty and `.` segments, and with a leading slash if they had one.
Parent segments `..` are kept, since what they mean depends on links.
-/

namespace Redline.Text

/-- A segment that a normal form keeps: neither empty nor a single dot. -/
def isSegment (part : List Char) : Bool := !part.isEmpty && part != ['.']

/-- The segments that a normal form keeps, in order. -/
def segments (cs : List Char) : List (List Char) := (fields '/' cs).filter isSegment

/-- The normal form of the spelling of a path. -/
def normalizeChars (cs : List Char) : List Char :=
  let path := trimChars cs
  let joined := ['/'].intercalate (segments path)
  if path.head? = some '/' then '/' :: joined else joined

/-- The normal form of the spelling of a path. -/
def normalizePath (path : String) : String := String.ofList (normalizeChars path.toList)

end Redline.Text
