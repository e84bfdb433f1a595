import Redline.Text.Numeral
import Redline.Text.Percent

/-!
# Formats

The program `printf` writes its arguments by a format. A directive begins with a percent sign and
says how the next argument is written, a backslash begins an escape, and everything else is written
as it stands. A format with directives is used again until no argument is left.
-/

namespace Redline.Shell

open Redline.Text

/-! ## Escapes -/

/-- The character of an escape of one letter. -/
def letterEscapes : List (Char × Nat) :=
  [('\\', 0x5C), ('a', 7), ('b', 8), ('e', 27), ('f', 12), ('n', 10), ('r', 13), ('t', 9),
    ('v', 11), ('"', 0x22)]

/-- The value of an octal digit. -/
def octalDigit? (c : Char) : Option Nat := (digitValue? c).filter (· < 8)

/-- The value of up to `count` octal digits after `value`, and the characters after them. -/
def octalFrom (value : Nat) : (count : Nat) → List Char → Nat × List Char
  | 0, cs => (value, cs)
  | _ + 1, [] => (value, [])
  | count + 1, c :: cs =>
    match octalDigit? c with
    | some d => octalFrom (value * 8 + d) count cs
    | none => (value, c :: cs)

/-- What an escape stands for, given the characters after its backslash, and those after the escape.
`none` stands for the end of all output. Numbers have up to `digits` octal digits. -/
def escape (digits : Nat) : List Char → Option (List UInt8) × List Char
  | [] => (some [0x5C], [])
  | 'c' :: rest => (none, rest)
  | c :: rest =>
    match letterEscapes.lookup c with
    | some n => (some [UInt8.ofNat n], rest)
    | none =>
      if (octalDigit? c).isSome then
        let (n, rest) := octalFrom 0 digits (c :: rest)
        (some [UInt8.ofNat n], rest)
      else (some (0x5C :: encode (String.singleton c)), rest)

/-! ## Formats -/

/-- How an argument is written. -/
structure Directive where
  /-- The flags. -/
  flags : List Char
  /-- The least number of bytes. -/
  width : Nat
  /-- The precision. -/
  precision : Option Nat
  /-- The kind of conversion. -/
  conversion : Char
deriving DecidableEq, Repr

/-- A part of a format. -/
inductive FormatPart
  | bytes (bytes : List UInt8)
  | directive (d : Directive)
  | stop
deriving DecidableEq, Repr

/-- The number that digits denote, and the characters after them. -/
def leadingNumber (cs : List Char) : Nat × List Char :=
  let ds := cs.takeWhile fun c ↦ (digitValue? c).isSome
  (ds.foldl (fun n c ↦ n * 10 + (digitValue? c).getD 0) 0, cs.drop ds.length)

/-- The directive after a percent sign, and the characters after it. -/
def directive? (cs : List Char) : Option (Directive × List Char) :=
  let flags := cs.takeWhile fun c ↦ "-+ #0".toList.contains c
  let (width, rest) := leadingNumber (cs.drop flags.length)
  let (precision, rest) := match rest with
    | '.' :: rest => let (n, rest) := leadingNumber rest; (some n, rest)
    | rest => (none, rest)
  match rest with
  | [] => none
  | c :: rest => some (⟨flags, width, precision, c⟩, rest)

/-- The parts of a format. The number bounds the parts; a format has no more of them than
characters. -/
def formatParts : Nat → List Char → List FormatPart
  | 0, _ => []
  | _, [] => []
  | n + 1, '\\' :: rest =>
    match escape 3 rest with
    | (some bytes, rest) => .bytes bytes :: formatParts n rest
    | (none, _) => [.stop]
  | n + 1, '%' :: '%' :: rest => .bytes [0x25] :: formatParts n rest
  | n + 1, '%' :: rest =>
    match directive? rest with
    | some (d, rest) => .directive d :: formatParts n rest
    | none => [.bytes [0x25]]
  | n + 1, c :: rest => .bytes (encode (String.singleton c)) :: formatParts n rest

/-! ## Writing -/

/-- Bytes filled up to a width with blanks. -/
def fill (d : Directive) (bytes : List UInt8) : List UInt8 :=
  let room := List.replicate (d.width - bytes.length) 0x20
  if d.flags.contains '-' then bytes ++ room else room ++ bytes

/-- A number with a sign, filled up as the directive says. -/
def writeNumber (d : Directive) (sign : List UInt8) (digits : List Char) : List UInt8 :=
  let digits := (digits.map fun c ↦ UInt8.ofNat c.toNat)
  let digits := List.replicate (d.precision.getD 1 - digits.length) 0x30 ++ digits
  if d.flags.contains '0' && !d.flags.contains '-' && d.precision.isNone then
    sign ++ List.replicate (d.width - sign.length - digits.length) 0x30 ++ digits
  else fill d (sign ++ digits)

/-- The integer that an argument denotes: the number at its beginning, and whether there is nothing
else. -/
def integerOf (arg : List Char) : Int × Bool :=
  match arg with
  | [] => (0, true)
  | '"' :: c :: _ | '\'' :: c :: _ => (c.toNat, true)
  | _ =>
    let (isNegative, cs) := match arg with
      | '-' :: cs => (true, cs)
      | '+' :: cs => (false, cs)
      | cs => (false, cs)
    let (base, cs) : Nat × List Char := match cs with
      | '0' :: 'x' :: cs => (16, cs)
      | '0' :: 'X' :: cs => (16, cs)
      | '0' :: c :: cs => (8, c :: cs)
      | cs => (10, cs)
    let ds := cs.takeWhile fun c ↦ ((hexDigitValue? c).filter (· < base)).isSome
    let n := ds.foldl (fun n c ↦ n * base + (hexDigitValue? c).getD 0) 0
    (if isNegative then -(n : Int) else n, !ds.isEmpty && ds.length == cs.length)

/-- The escapes of an argument carried out, and whether one of them ends all output. The number
bounds the characters. -/
def unescape : Nat → List Char → List UInt8 × Bool
  | 0, _ => ([], false)
  | _, [] => ([], false)
  | n + 1, '\\' :: rest =>
    match escape (if rest.head? == some '0' then 4 else 3) rest with
    | (none, _) => ([], true)
    | (some bytes, rest) => let (more, isEnd) := unescape n rest; (bytes ++ more, isEnd)
  | n + 1, c :: rest =>
    let (more, isEnd) := unescape n rest
    (encode (String.singleton c) ++ more, isEnd)

/-- What a format writes. -/
structure Written where
  /-- The bytes. -/
  bytes : List UInt8 := []
  /-- The arguments that are no numbers where numbers are expected. -/
  faulty : List String := []
  /-- The arguments that are left. -/
  args : List String
  /-- Whether all output has ended. -/
  isEnd : Bool := false

def Written.add (w : Written) (bytes : List UInt8) : Written := { w with bytes := w.bytes ++ bytes }

def writeArgument (d : Directive) (arg : String) (w : Written) : Written :=
  let (n, isNumber) := integerOf arg.toList
  let w' := if isNumber then w else { w with faulty := w.faulty ++ [arg] }
  let unsigned := (if n < 0 then n + Text.wordBound else n).toNat
  match d.conversion with
  | 's' =>
    let bytes := encode arg
    w.add (fill d ((d.precision.map bytes.take).getD bytes))
  | 'b' =>
    let (bytes, isEnd) := unescape arg.length arg.toList
    { w.add (fill d bytes) with isEnd := isEnd }
  | 'c' => w.add (fill d ((encode arg).take 1))
  | 'd' | 'i' =>
    let sign : List UInt8 := if n < 0 then [0x2D] else if d.flags.contains '+' then [0x2B]
      else if d.flags.contains ' ' then [0x20] else []
    w'.add (writeNumber d sign (Nat.toDigits 10 n.natAbs))
  | 'u' => w'.add (writeNumber d [] (Nat.toDigits 10 unsigned))
  | 'o' => w'.add (writeNumber d [] (Nat.toDigits 8 unsigned))
  | 'x' => w'.add (writeNumber d [] (Nat.toDigits 16 unsigned))
  | 'X' => w'.add (writeNumber d [] ((Nat.toDigits 16 unsigned).map Char.toUpper))
  | _ => w

def writePart (w : Written) (part : FormatPart) : Written :=
  if w.isEnd then w
  else match part with
    | .bytes bytes => w.add bytes
    | .stop => { w with isEnd := true }
    | .directive d => writeArgument d (w.args.headD "") { w with args := w.args.tail }

/-- Writes a format until no argument is left. The number bounds how often it is used again. -/
def writeFormat (parts : List FormatPart) : Nat → Written → Written
  | 0, w => w
  | n + 1, w =>
    let left := w.args.length
    let w := parts.foldl writePart w
    if w.isEnd || w.args.isEmpty || w.args.length = left then w else writeFormat parts n w

/-- What a format writes for the given arguments. -/
def format (text : String) (args : List String) : Written :=
  writeFormat (formatParts text.length text.toList) (args.length + 1) { args }

end Redline.Shell
