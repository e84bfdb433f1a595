/-!
# White space

Prompts, paths, model ids, settings and replies are all cut free of surrounding white space before
they are used. White space is the Unicode property `White_Space`: besides the blank, the tabs and
the line ends it holds the wide and narrow spaces of the `Zs`, `Zl` and `Zp` categories, but neither
the zero width space nor the byte order mark.

Text is cut as a list of characters, and the functions on `String` are wrappers of those on lists.
-/

namespace Redline.Text

/-! ## The property -/

/-- A character of the Unicode property `White_Space`. -/
def isBlank (c : Char) : Bool :=
  let n := c.toNat
  (0x09 ≤ n && n ≤ 0x0D) || n == 0x20 || n == 0x85 || n == 0xA0 || n == 0x1680 ||
    (0x2000 ≤ n && n ≤ 0x200A) || n == 0x2028 || n == 0x2029 || n == 0x202F || n == 0x205F ||
    n == 0x3000

/-! ## Cutting -/

/-- The characters from the first that is not blank. -/
def trimLeft (cs : List Char) : List Char := cs.dropWhile isBlank

/-- The characters up to the last that is not blank. -/
def trimRight (cs : List Char) : List Char := (cs.reverse.dropWhile isBlank).reverse

/-- The characters between the first and the last that are not blank. -/
def trimChars (cs : List Char) : List Char := trimRight (trimLeft cs)

/-- The text without the white space around it. -/
def trim (s : String) : String := String.ofList (trimChars s.toList)

/-- A text of nothing but white space, the empty one included. -/
def isBlankText (s : String) : Bool := s.toList.all isBlank

/-- The text without white space around it, or `none` when nothing is left. -/
def trimmed? (s : String) : Option String := if isBlankText s then none else some (trim s)

/-! ## Words -/

/-- The maximal runs of characters that are not blank, given the run read so far. -/
def wordsFrom (run : List Char) : List Char → List (List Char)
  | [] => if run.isEmpty then [] else [run.reverse]
  | c :: cs =>
    if isBlank c then
      if run.isEmpty then wordsFrom [] cs else run.reverse :: wordsFrom [] cs
    else wordsFrom (c :: run) cs

/-- The words of a text: its maximal runs of characters that are not blank, in order. -/
def words (s : String) : List String := (wordsFrom [] s.toList).map String.ofList

end Redline.Text
