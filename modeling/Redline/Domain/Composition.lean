import Redline.Domain.CompositionTable

/-!
# The composed normal form

A letter and its marks may be written as one character or as several. The normal form (NFC) of a
text takes every character apart, brings the marks on each letter into the order of their classes,
and joins what one character can stand for.

The syllables of Hangul are composed by arithmetic and are not in the table: a syllable is a leading
consonant, a vowel and possibly a trailing consonant.
-/

namespace Redline.Domain

open Redline.Text

/-- The class of a character; zero if it does not attach to others. -/
def combiningClass (c : Char) : Nat :=
  if c.toNat < 0x300 then 0
  else ((combiningClasses.find? fun (_, ranges) ↦ isAmong ranges c).map Prod.fst).getD 0

/-! ## Syllables -/

/-- The first syllable of Hangul. -/
def firstSyllable : Nat := 0xAC00

def syllableCount : Nat := 11172

/-- The first leading consonant, of which there are 19. -/
def firstLeading : Nat := 0x1100

/-- The first vowel, of which there are 21. -/
def firstVowel : Nat := 0x1161

/-- What stands before the 27 trailing consonants. -/
def beforeTrailing : Nat := 0x11A7

/-- The two characters that a syllable stands for: a syllable without a trailing consonant and that
consonant, or a leading consonant and a vowel. -/
def splitSyllable? (n : Nat) : Option (Nat × Nat) :=
  let i := n - firstSyllable
  if n < firstSyllable ∨ syllableCount ≤ i then none
  else if i % 28 = 0 then some (firstLeading + i / 588, firstVowel + i / 28 % 21)
  else some (n - i % 28, beforeTrailing + i % 28)

/-- The syllable that stands for two characters. -/
def joinSyllable? (a b : Nat) : Option Nat :=
  if firstLeading ≤ a ∧ a < firstLeading + 19 ∧ firstVowel ≤ b ∧ b < firstVowel + 21 then
    some (firstSyllable + ((a - firstLeading) * 21 + (b - firstVowel)) * 28)
  else if firstSyllable ≤ a ∧ a < firstSyllable + syllableCount ∧ (a - firstSyllable) % 28 = 0 ∧
      beforeTrailing < b ∧ b < beforeTrailing + 28 then
    some (a + (b - beforeTrailing))
  else none

/-! ## Taking apart -/

/-- The two code points that a code point stands for. -/
def parts? (n : Nat) : Option (Nat × Nat) :=
  (splitSyllable? n).or ((composites.find? (·.whole == n)).map fun c ↦ (c.first, c.second))

/-- The code points that a code point stands for after it is taken apart at most `depth` times. -/
def takeApart : Nat → Nat → List Nat
  | 0, n => [n]
  | depth + 1, n =>
    match parts? n with
    | some (first, second) => takeApart depth first ++ [second]
    | none => [n]

/-- The characters that a character stands for. None stands for more than three. -/
def decompose (c : Char) : List Char :=
  if c.toNat < 0xC0 then [c] else (takeApart 2 c.toNat).map Char.ofNat

/-- Puts a character with its class before others: behind the marks of lower classes that follow. -/
def insertMark (mark : Nat × Char) : List (Nat × Char) → List (Nat × Char)
  | [] => [mark]
  | next :: rest =>
    if 0 < next.1 ∧ next.1 < mark.1 then next :: insertMark mark rest else mark :: next :: rest

/-- The characters with their classes, the marks on each letter in the order of their classes. -/
def orderMarks (cs : List Char) : List (Nat × Char) :=
  cs.foldr (fun c ordered ↦ insertMark (combiningClass c, c) ordered) []

/-! ## Joining -/

/-- The character that stands for two. -/
def join? (a b : Char) : Option Char :=
  ((joinSyllable? a.toNat b.toNat).or
    ((composites.find? fun c ↦ c.first == a.toNat && c.second == b.toNat).map Composite.whole)).map
      Char.ofNat

/-- Joins a letter with what follows it. The marks that it could not be joined with stand in
between, the last one first; they keep it from the marks of the same class and of lower ones. -/
def joinFrom (letter : Char) (between : List (Nat × Char)) : List (Nat × Char) → List Char
  | [] => letter :: between.reverse.map Prod.snd
  | next :: rest =>
    let isReached := between.head?.all (·.1 < next.1)
    match if isReached then join? letter next.2 else none with
    | some joined => joinFrom joined between rest
    | none =>
      if next.1 = 0 then (letter :: between.reverse.map Prod.snd) ++ joinFrom next.2 [] rest
      else joinFrom letter (next :: between) rest

/-- The characters with every letter joined with its marks. Marks at the front stay. -/
def joinAll : List (Nat × Char) → List Char
  | [] => []
  | next :: rest => if next.1 = 0 then joinFrom next.2 [] rest else next.2 :: joinAll rest

/-- The composed normal form. -/
def normalForm (cs : List Char) : List Char :=
  if cs.all (·.toNat < 0x80) then cs else joinAll (orderMarks (cs.flatMap decompose))

end Redline.Domain
