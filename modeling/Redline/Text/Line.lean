/-!
# Lines

A text is read as lines in two ways. A *patch* keeps every character: each line carries its
terminator, which is `\r\n`, `\n` or a lone `\r`, and only the last line of a text may have none.
The *display* of a text drops terminators, and there only `\n` ends a line, together with one `\r`
right before it; a lone `\r` is an ordinary character.
-/

namespace Redline.Text

/-! ## Lines with their terminators -/

/-- The lines of a text, each with its terminator, which is `\r\n`, `\n` or a lone `\r`. -/
def lines : List Char → List (List Char)
  | [] => []
  | '\r' :: '\n' :: rest => ['\r', '\n'] :: lines rest
  | c :: rest =>
    if c = '\n' ∨ c = '\r' then [c] :: lines rest
    else match lines rest with
      | [] => [[c]]
      | line :: more => (c :: line) :: more

/-- The lines of a text as an array of texts, each with its terminator. -/
def linesOf (s : String) : Array String := ((lines s.toList).map String.ofList).toArray

/-- The line without its terminator. -/
def dropTerminator (line : List Char) : List Char :=
  match line.reverse with
  | '\n' :: '\r' :: rest => rest.reverse
  | '\n' :: rest => rest.reverse
  | '\r' :: rest => rest.reverse
  | _ => line

/-- A line that ends in a terminator. -/
def isTerminated (line : List Char) : Bool :=
  match line.reverse with
  | c :: _ => c == '\n' || c == '\r'
  | [] => false

/-! ## Lines as displayed -/

/-- The lines of a text as displayed: cut at every `\n`, without it and without one `\r` right
before it, and with no empty last line. -/
def displayLines : List Char → List (List Char)
  | [] => []
  | '\r' :: '\n' :: rest => [] :: displayLines rest
  | c :: rest =>
    if c = '\n' then [] :: displayLines rest
    else match displayLines rest with
      | [] => [[c]]
      | line :: more => (c :: line) :: more

/-- The displayed lines of a text. -/
def displayLinesOf (s : String) : List String := (displayLines s.toList).map String.ofList

end Redline.Text
