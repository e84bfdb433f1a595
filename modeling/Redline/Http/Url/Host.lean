import Redline.Domain.Name
import Redline.Text.Percent
import Redline.Text.Split

/-!
# Hosts

The host of an address is a domain name, an address of four bytes or, between brackets, one of eight
groups of sixteen bits. A name is written in ASCII. A name whose last label is a number has to be an
address of four bytes, which may be written in fewer parts and in other bases.
-/

namespace Redline.Http

open Redline.Text

/-! ## Four bytes -/

/-- The value of a digit below `base`. -/
def digitBelow? (base : Nat) (c : Char) : Option Nat :=
  (hexDigitValue? c).filter (· < base)

/-- The number that digits of a base denote. -/
def numberOf? (base : Nat) (cs : List Char) : Option Nat :=
  cs.foldlM (fun n c ↦ (digitBelow? base c).map (n * base + ·)) 0

/-- A part of an address of four bytes: hexadecimal after `0x`, octal after another `0`. -/
def addressPart? (cs : List Char) : Option Nat :=
  match cs with
  | [] => none
  | '0' :: x :: rest => if x = 'x' ∨ x = 'X' then numberOf? 16 rest else numberOf? 8 (x :: rest)
  | _ => numberOf? 10 cs

/-- The labels of a name; an empty one at its end does not count. -/
def labels (cs : List Char) : List (List Char) :=
  let parts := fields '.' cs
  if 1 < parts.length && parts.getLast? == some [] then parts.dropLast else parts

/-- A name whose last label is a number. -/
def endsInNumber (cs : List Char) : Bool :=
  match (labels cs).getLast? with
  | none => false
  | some [] => false
  | some part => part.all (fun c ↦ (digitBelow? 10 c).isSome) || (addressPart? part).isSome

/-- The value of an address of four bytes: every part but the last is one byte, and the last one
fills the rest. -/
def joinParts? : List Nat → Nat → Option Nat
  | [], _ => none
  | [last], room => if last < Nat.pow 256 room then some last else none
  | part :: rest, room =>
    if 256 ≤ part then none
    else (joinParts? rest (room - 1)).map (part * Nat.pow 256 (room - 1) + ·)

/-- Four bytes as written. -/
def writeBytes (n : Nat) : List Char :=
  ['.'].intercalate
    ([n / Nat.pow 256 3, n / Nat.pow 256 2, n / 256, n].map fun b ↦ Nat.toDigits 10 (b % 256))

/-- The written form of an address of four bytes. -/
def fourBytes? (cs : List Char) : Option (List Char) := do
  let parts ← (labels cs).mapM addressPart?
  if 4 < parts.length then none
  else (joinParts? parts 4).map writeBytes

/-! ## Eight groups -/

/-- A group of at most four hexadecimal digits. -/
def group? (cs : List Char) : Option Nat :=
  if cs.isEmpty || 4 < cs.length then none else numberOf? 16 cs

/-- A byte in decimal digits without leading zeros. -/
def plainByte? (cs : List Char) : Option Nat :=
  if cs.isEmpty || (cs.head? == some '0' && 1 < cs.length) then none
  else (numberOf? 10 cs).filter (· < 256)

/-- Four bytes at the end of an address as two groups. -/
def trailingBytes? (cs : List Char) : Option (List Nat) := do
  match ← (fields '.' cs).mapM plainByte? with
  | [a, b, c, d] => some [a * 256 + b, c * 256 + d]
  | _ => none

/-- The groups between colons; the last part may be four bytes. -/
def groups? : List (List Char) → Option (List Nat)
  | [] => some []
  | [part] => if part.contains '.' then trailingBytes? part else (group? part).map ([·])
  | part :: parts => do return (← group? part) :: (← groups? parts)

/-- The groups of a side of the double colon. -/
def side? (cs : List Char) : Option (List Nat) :=
  if cs.isEmpty then some [] else groups? (fields ':' cs)

/-- The characters before and after the first double colon. -/
def cutDoubleColon? : List Char → Option (List Char × List Char)
  | ':' :: ':' :: rest => some ([], rest)
  | c :: cs => (cutDoubleColon? cs).map fun (before, after) ↦ (c :: before, after)
  | [] => none

/-- The eight groups of an address. -/
def eightGroups? (cs : List Char) : Option (List Nat) := do
  match cutDoubleColon? cs with
  | none =>
    let gs ← groups? (fields ':' cs)
    if gs.length = 8 then some gs else none
  | some (before, after) =>
    if before.contains '.' then none
    else
      let front ← side? before
      let back ← side? after
      if front.length + back.length < 8 then
        some (front ++ List.replicate (8 - front.length - back.length) 0 ++ back)
      else none

/-- The length of the run of zeros at the front. -/
def zerosAtFront (gs : List Nat) : Nat := (gs.takeWhile (· == 0)).length

/-- The first of the longest runs of zeros: where it begins and how long it is. -/
def longestZeros (gs : List Nat) : Nat × Nat :=
  (List.range gs.length).foldl (fun best i ↦
    let n := zerosAtFront (gs.drop i)
    if best.2 < n then (i, n) else best) (0, 0)

/-- Groups with colons between them. -/
def writeGroups (gs : List Nat) : List Char := [':'].intercalate (gs.map (Nat.toDigits 16))

/-- Eight groups as written: the first of the longest runs of at least two zeros becomes a double
colon. -/
def writeEight (gs : List Nat) : List Char :=
  let (start, n) := longestZeros gs
  if n < 2 then writeGroups gs
  else writeGroups (gs.take start) ++ [':', ':'] ++ writeGroups (gs.drop (start + n))

/-! ## Names -/

/-- A character that no name may hold. -/
def isForbiddenInName (c : Char) : Bool :=
  c.toNat ≤ 0x20 || c.toNat = 0x7F || "%#/:<>?@[\\]^|".toList.contains c

/-- A character that no host of another scheme may hold. -/
def isForbiddenInHost (c : Char) : Bool := c.toNat = 0 || " #/:<>?@[\\]^|".toList.contains c

/-- A host between brackets, without its opening bracket. -/
def bracketed? (cs : List Char) : Option (List Char) := do
  let inner ← dropEnding? [']'] cs
  let gs ← eightGroups? inner
  some ('[' :: writeEight gs ++ [']'])

/-- The written form of a host of the web. -/
def webHost? (cs : List Char) : Option (List Char) := do
  match cs with
  | '[' :: rest => bracketed? rest
  | _ =>
    let name ← Domain.asciiName? (decodeLossy (percentDecode cs)).toList
    if name.isEmpty || name.any isForbiddenInName then none
    else if endsInNumber name then fourBytes? name
    else some name

/-- The written form of a host of another scheme. -/
def otherHost? (cs : List Char) : Option (List Char) :=
  match cs with
  | '[' :: rest => bracketed? rest
  | _ => if cs.any isForbiddenInHost then none else some (percentEncode (fun _ ↦ false) cs)

end Redline.Http
