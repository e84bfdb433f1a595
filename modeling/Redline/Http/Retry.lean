import Redline.Duration
import Redline.Text.Split

/-!
# Retrying

A response is worth another try when its status or the text of its body names a cause that passes.
The pauses between tries double from one to the next.
-/

namespace Redline.Http

open Redline.Text

/-! ## Passing causes -/

/-- A character without its case: letters `A` to `Z` become lower case, and the two letters outside
ASCII whose simple case folding is an ASCII letter become that letter. -/
def foldCase (c : Char) : Char :=
  if c.toNat = 0x17F then 's' else if c.toNat = 0x212A then 'k' else asciiLower c

/-- Phrases of one word, or of two words with at most one character between them. -/
def transientPhrases : List (List Char × List Char) := [
  ("rate".toList, "limit".toList), ("overloaded".toList, []),
  ("service".toList, "unavailable".toList), ("upstream".toList, "connect".toList),
  ("try".toList, "again".toList)]

/-- Whether folded text begins with a phrase. The character between the words is not a line end. -/
def beginsWithPhrase (phrase : List Char × List Char) (cs : List Char) : Bool :=
  match dropBeginning? phrase.1 cs with
  | none => false
  | some rest =>
    startsWith phrase.2 rest || match rest with
      | c :: rest => c != '\n' && startsWith phrase.2 rest
      | [] => false

/-- Whether folded text names a passing cause. -/
def namesTransient : List Char → Bool
  | [] => false
  | c :: cs => transientPhrases.any (beginsWithPhrase · (c :: cs)) || namesTransient cs

/-- The statuses that are worth another try. -/
def transientStatuses : List Nat := [429, 500, 502, 503, 504]

/-- Whether a response is worth another try. -/
def isRetryable (status : Nat) (body : String) : Bool :=
  transientStatuses.contains status || namesTransient (body.toList.map foldCase)

/-! ## Pauses -/

/-- How many tries follow the first one at most. -/
def maxRetries : Nat := 3

/-- The pause before the first retry. -/
def defaultRetryDelay : Duration := .ofMillis 500

/-- The pause after the given try, counted from zero: `base` doubled that often, at most 16 times.
-/
def retryDelay (base : Duration) (attempt : Nat) : Duration :=
  base.scale (Nat.pow 2 (min attempt 16))

end Redline.Http
