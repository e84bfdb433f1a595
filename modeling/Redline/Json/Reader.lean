import Redline.Json.Value
import Redline.Text.Numeral

/-!
# Reading JSON

A reader walks over a text and stops at the first problem, which it reports with its place: the
line, counted from one, and the number of bytes between the start of that line and the place. Most
problems are placed right after the character that shows them.

The readers of arrays and objects take the reader of their items as an argument, so the same ones
serve untyped values here and records with known fields elsewhere. At most 127 arrays and objects
may be open at once.
-/

namespace Redline.Json

open Redline.Text Redline.Decimal

/-! ## Places and errors -/

/-- What is wrong with the syntax of a text. -/
inductive SyntaxFault
  | eofValue
  | eofString
  | eofObject
  | eofList
  | expectedValue
  | expectedIdent
  | expectedColon
  | expectedCommaOrBrace
  | expectedCommaOrBracket
  | invalidNumber
  | numberOutOfRange
  | invalidEscape
  | unexpectedEndOfHexEscape
  | loneSurrogate
  | controlCharacter
  | keyMustBeString
  | trailingComma
  | trailingCharacters
  | recursionLimit
deriving DecidableEq, Repr

def SyntaxFault.message : SyntaxFault → String
  | .eofValue => "EOF while parsing a value"
  | .eofString => "EOF while parsing a string"
  | .eofObject => "EOF while parsing an object"
  | .eofList => "EOF while parsing a list"
  | .expectedValue => "expected value"
  | .expectedIdent => "expected ident"
  | .expectedColon => "expected `:`"
  | .expectedCommaOrBrace => "expected `,` or `\x7d`"
  | .expectedCommaOrBracket => "expected `,` or `]`"
  | .invalidNumber => "invalid number"
  | .numberOutOfRange => "number out of range"
  | .invalidEscape => "invalid escape"
  | .unexpectedEndOfHexEscape => "unexpected end of hex escape"
  | .loneSurrogate => "lone leading surrogate in hex escape"
  | .controlCharacter => "control character (\\u0000-\\u001F) found while parsing a string"
  | .keyMustBeString => "key must be a string"
  | .trailingComma => "trailing comma"
  | .trailingCharacters => "trailing characters"
  | .recursionLimit => "recursion limit exceeded"

structure Place where
  /-- The line, counted from one. -/
  line : Nat
  /-- The bytes between the start of the line and the place. -/
  column : Nat
deriving DecidableEq, Repr

def Place.after (p : Place) (c : Char) : Place :=
  if c = '\n' then ⟨p.line + 1, 0⟩ else ⟨p.line, p.column + c.utf8Size⟩

/-- The place one byte further, seen from the character that begins there. -/
def Place.byteAfter (p : Place) (c : Char) : Place :=
  if c = '\n' then ⟨p.line + 1, 0⟩ else ⟨p.line, p.column + 1⟩

/-- A problem: with the syntax, or with the shape of a value. -/
inductive Problem
  | syntaxFault (fault : SyntaxFault)
  | mismatch (mismatch : Mismatch)
deriving DecidableEq, Repr

/-- A problem and its place. -/
structure ReadError where
  /-- What is wrong. -/
  problem : Problem
  /-- Where. -/
  place : Place
deriving DecidableEq, Repr

def ReadError.message (e : ReadError) : String :=
  (match e.problem with
    | .syntaxFault fault => fault.message
    | .mismatch m => m.message) ++
    " at line " ++ toString e.place.line ++ " column " ++ toString e.place.column

/-- The rest of a text and the place where it begins. -/
structure Cursor where
  /-- The characters not read yet. -/
  rest : List Char
  /-- The place of the first of them. -/
  place : Place
deriving DecidableEq, Repr

namespace Cursor

def start (s : String) : Cursor := ⟨s.toList, ⟨1, 0⟩⟩

def next (c : Cursor) : Cursor :=
  match c.rest with
  | [] => c
  | x :: rest => ⟨rest, c.place.after x⟩

/-- The cursor at the first character that is no JSON white space. -/
def skipSpace : List Char → Place → Cursor
  | [], p => ⟨[], p⟩
  | x :: rest, p =>
    if x = ' ' ∨ x = '\n' ∨ x = '\t' ∨ x = '\r' then skipSpace rest (p.after x) else ⟨x :: rest, p⟩

/-- The cursor after the JSON white space at it. -/
def space (c : Cursor) : Cursor := skipSpace c.rest c.place

/-- The place of a problem shown by the next character. -/
def peekPlace (c : Cursor) : Place :=
  match c.rest with
  | [] => c.place
  | x :: _ => c.place.byteAfter x

/-- A fault at the cursor. -/
def fault {α : Type} (c : Cursor) (f : SyntaxFault) : Except ReadError α :=
  .error ⟨.syntaxFault f, c.place⟩

/-- A fault shown by the next character. -/
def peekFault {α : Type} (c : Cursor) (f : SyntaxFault) : Except ReadError α :=
  .error ⟨.syntaxFault f, c.peekPlace⟩

/-- A mismatch at the cursor. -/
def mismatch {α : Type} (c : Cursor) (m : Mismatch) : Except ReadError α :=
  .error ⟨.mismatch m, c.place⟩

end Cursor

/-- A reader: what it read and the cursor after it, or the first problem. -/
abbrev Reader (α : Type) := Cursor → Except ReadError (α × Cursor)

/-! ## Words and numbers -/

/-- Reads the remaining letters of a word such as `null`. -/
def readWordRest : List Char → Cursor → Except ReadError Cursor
  | [], c => .ok c
  | letter :: letters, c =>
    match c.rest with
    | [] => c.fault .eofValue
    | x :: _ => if x = letter then readWordRest letters c.next else c.peekFault .expectedIdent

/-- The bound of the digits of a number that are kept. -/
def significandBound : Nat := Nat.pow 2 64

/-- The digits of a number read so far. Those after the first one with which the value would reach
its bound are dropped. -/
structure Significand where
  /-- The value of the digits kept. -/
  value : Nat
  /-- How many digits of the present part are kept. -/
  kept : Nat
  /-- How many digits of the present part are dropped. -/
  dropped : Nat

/-- The digits with one more. -/
def Significand.push (s : Significand) (d : Nat) : Significand :=
  if s.dropped = 0 ∧ s.value * 10 + d < significandBound then
    ⟨s.value * 10 + d, s.kept + 1, 0⟩
  else ⟨s.value, s.kept, s.dropped + 1⟩

def scanDigits (s : Significand) : List Char → Place → Significand × Cursor
  | [], p => (s, ⟨[], p⟩)
  | x :: rest, p =>
    match digitValue? x with
    | some d => scanDigits (s.push d) rest (p.after x)
    | none => (s, ⟨x :: rest, p⟩)

/-- The bound of a decimal exponent. -/
def exponentBound : Nat := Nat.pow 2 31

/-- Reads the digits of an exponent after `value`. The answer is `none` and the cursor at the end of
the digits when the exponent reaches its bound; `huge` says that this makes the number too large. -/
def scanExponent (huge : Bool) (value : Nat) : List Char → Place →
    Except ReadError (Option Nat × Cursor)
  | [], p => .ok (some value, ⟨[], p⟩)
  | x :: rest, p =>
    match digitValue? x with
    | none => .ok (some value, ⟨x :: rest, p⟩)
    | some d =>
      if value * 10 + d < exponentBound then
        scanExponent huge (value * 10 + d) rest (p.after x)
      else if huge then .error ⟨.syntaxFault .numberOutOfRange, p.after x⟩
      else .ok (none, (scanDigits ⟨0, 0, 0⟩ rest (p.after x)).2)

/-- Reads an exponent after its letter, for the digits `digits · 10 ^ power`. -/
def readExponent (negative : Bool) (digits : Nat) (power : Int) : Reader Number := fun c ↦
  let (down, c) := match c.rest with
    | '+' :: _ => (false, c.next)
    | '-' :: _ => (true, c.next)
    | _ => (false, c)
  match c.rest with
  | [] => c.fault .eofValue
  | x :: _ =>
    match digitValue? x with
    | none => c.peekFault .invalidNumber
    | some d => do
      let (exponent?, c) ← scanExponent (!down && digits != 0) d c.next.rest c.next.place
      match exponent? with
      | none => .ok (.double (.zero negative), c)
      | some exponent =>
        let shift : Int := if down then -exponent else exponent
        match ofDecimal? negative digits (power + shift) with
        | some double => .ok (.double double, c)
        | none => c.fault .numberOutOfRange

/-- The number of the given sign and digits without fraction and exponent. It is an integer if no
digit was dropped and it fits a word of 64 bits with its sign. -/
def wholeNumber (negative : Bool) (s : Significand) : Option Number :=
  if s.dropped = 0 ∧ !negative then some (.integer s.value)
  else if s.dropped = 0 ∧ s.value ≠ 0 ∧ s.value ≤ Nat.pow 2 63 then some (.integer (-s.value))
  else (ofDecimal? negative s.value s.dropped).map .double

/-- Reads a number after its sign. -/
def readNumber (negative : Bool) : Reader Number := fun c ↦
  match c.rest with
  | [] => c.fault .eofValue
  | x :: _ =>
    match digitValue? x with
    | none => c.peekFault .invalidNumber
    | some first =>
      let zeroThenDigit := first = 0 ∧ ((c.next.rest.head?.bind digitValue?).isSome)
      if zeroThenDigit then c.next.peekFault .invalidNumber
      else
        let (whole, c) := scanDigits ⟨first, 1, 0⟩ c.next.rest c.next.place
        match c.rest with
        | '.' :: _ =>
          let (all, c) := scanDigits ⟨whole.value, 0, 0⟩ c.next.rest c.next.place
          let power : Int := whole.dropped - all.kept
          if all.kept + all.dropped = 0 then
            c.peekFault (if c.rest.isEmpty then .eofValue else .invalidNumber)
          else
            match c.rest with
            | 'e' :: _ => readExponent negative all.value power c.next
            | 'E' :: _ => readExponent negative all.value power c.next
            | _ =>
              match ofDecimal? negative all.value power with
              | some double => .ok (.double double, c)
              | none => c.fault .numberOutOfRange
        | 'e' :: _ => readExponent negative whole.value whole.dropped c.next
        | 'E' :: _ => readExponent negative whole.value whole.dropped c.next
        | _ =>
          match wholeNumber negative whole with
          | some n => .ok (n, c)
          | none => c.fault .numberOutOfRange

/-! ## Strings -/

/-- The value of a hexadecimal digit. -/
def hexValue? (c : Char) : Option Nat :=
  let n := c.toNat
  if 0x30 ≤ n ∧ n ≤ 0x39 then some (n - 0x30)
  else if 0x61 ≤ n ∧ n ≤ 0x66 then some (n - 0x61 + 10)
  else if 0x41 ≤ n ∧ n ≤ 0x46 then some (n - 0x41 + 10)
  else none

/-- The place after the given number of bytes of a text, or none when the text is shorter. -/
def placeAfterBytes? : Nat → List Char → Place → Option Place
  | 0, _, p => some p
  | _ + 1, [], _ => none
  | n + 1, x :: rest, p =>
    if x.utf8Size ≤ n + 1 then placeAfterBytes? (n + 1 - x.utf8Size) rest (p.after x)
    else some ⟨p.line, p.column + (n + 1)⟩

/-- The place at the end of a text. -/
def placeAtEnd : List Char → Place → Place
  | [], p => p
  | x :: rest, p => placeAtEnd rest (p.after x)

/-- Reads the four hexadecimal digits of an escape. The next four bytes are taken whatever they are.
-/
def readHex : Reader Nat := fun c ↦
  let fail : Except ReadError (Nat × Cursor) :=
    match placeAfterBytes? 4 c.rest c.place with
    | some p => .error ⟨.syntaxFault .invalidEscape, p⟩
    | none => .error ⟨.syntaxFault .eofString, placeAtEnd c.rest c.place⟩
  match c.rest with
  | w :: x :: y :: z :: _ =>
    match hexValue? w, hexValue? x, hexValue? y, hexValue? z with
    | some w, some x, some y, some z =>
      .ok (((w * 16 + x) * 16 + y) * 16 + z, c.next.next.next.next)
    | _, _, _, _ => fail
  | _ => fail

/-- Reads the second half of a character beyond the basic plane, whose first half is `lead`. -/
def readSurrogate (lead : Nat) : Reader Char := fun c ↦
  match c.rest with
  | [] => c.fault .eofString
  | '\\' :: _ =>
    match c.next.rest with
    | [] => c.next.fault .eofString
    | 'u' :: _ => do
      let (trail, c) ← readHex c.next.next
      if 0xDC00 ≤ trail ∧ trail ≤ 0xDFFF then
        .ok (Char.ofNat (0x10000 + (lead - 0xD800) * 0x400 + (trail - 0xDC00)), c)
      else c.fault .loneSurrogate
    | _ => c.next.peekFault .unexpectedEndOfHexEscape
  | _ => c.peekFault .unexpectedEndOfHexEscape

/-- The character that a backslash and the given letter denote. -/
def simpleEscape? (c : Char) : Option Char :=
  if c = '"' ∨ c = '\\' ∨ c = '/' then some c
  else if c = 'b' then some (Char.ofNat 0x08)
  else if c = 'f' then some (Char.ofNat 0x0C)
  else if c = 'n' then some '\n'
  else if c = 'r' then some '\r'
  else if c = 't' then some '\t'
  else none

/-- Reads an escape after its backslash. -/
def readEscape : Reader Char := fun c ↦
  match c.rest with
  | [] => c.fault .eofString
  | x :: _ =>
    match simpleEscape? x with
    | some y => .ok (y, c.next)
    | none =>
      if x = 'u' then do
        let (n, c) ← readHex c.next
        if 0xDC00 ≤ n ∧ n ≤ 0xDFFF then c.fault .loneSurrogate
        else if 0xD800 ≤ n ∧ n ≤ 0xDBFF then readSurrogate n c
        else .ok (Char.ofNat n, c)
      else c.peekFault .invalidEscape

/-- Reads a string after its opening quotation mark. The fuel bounds the number of characters. -/
def readChars (acc : List Char) : Nat → Reader String
  | 0, c => c.fault .eofString
  | fuel + 1, c =>
    match c.rest with
    | [] => c.fault .eofString
    | x :: _ =>
      if x = '"' then .ok (String.ofList acc.reverse, c.next)
      else if x = '\\' then do
        let (y, c) ← readEscape c.next
        readChars (y :: acc) fuel c
      else if x.toNat < 0x20 then c.peekFault .controlCharacter
      else readChars (x :: acc) fuel c.next

/-- Reads a string after its opening quotation mark. -/
def readStringRest : Reader String := fun c ↦ readChars [] (c.rest.length + 1) c

/-! ## Arrays and objects -/

/-- Moves to the next item of an array: the answer is `none` at the closing bracket. -/
def nextItem? (isFirst : Bool) (c : Cursor) : Except ReadError (Option Cursor) :=
  let c := c.space
  match c.rest with
  | [] => c.peekFault .eofList
  | x :: _ =>
    if x = ']' then .ok none
    else if isFirst then .ok (some c)
    else if x = ',' then
      let c := c.next.space
      match c.rest with
      | [] => c.peekFault .eofValue
      | y :: _ => if y = ']' then c.peekFault .trailingComma else .ok (some c)
    else c.peekFault .expectedCommaOrBracket

/-- Moves to the opening quotation mark of the next field of an object: the answer is `none` at the
closing brace. -/
def nextKey? (isFirst : Bool) (c : Cursor) : Except ReadError (Option Cursor) :=
  let c := c.space
  match c.rest with
  | [] => c.peekFault .eofObject
  | x :: _ =>
    if x = '\x7d' then .ok none
    else if isFirst then
      if x = '"' then .ok (some c) else c.peekFault .keyMustBeString
    else if x = ',' then
      let c := c.next.space
      match c.rest with
      | [] => c.peekFault .eofValue
      | y :: _ =>
        if y = '"' then .ok (some c)
        else if y = '\x7d' then c.peekFault .trailingComma
        else c.peekFault .keyMustBeString
    else c.peekFault .expectedCommaOrBrace

/-- Reads the colon between the name and the value of a field. -/
def readColon (c : Cursor) : Except ReadError Cursor :=
  let c := c.space
  match c.rest with
  | [] => c.peekFault .eofObject
  | x :: _ => if x = ':' then .ok c.next else c.peekFault .expectedColon

def closeArray (c : Cursor) : Except ReadError Cursor :=
  let c := c.space
  match c.rest with
  | [] => c.peekFault .eofList
  | x :: _ =>
    if x = ']' then .ok c.next
    else if x = ',' then
      let c := c.next.space
      if c.rest.head? = some ']' then c.peekFault .trailingComma
      else c.peekFault .trailingCharacters
    else c.peekFault .trailingCharacters

def closeObject (c : Cursor) : Except ReadError Cursor :=
  let c := c.space
  match c.rest with
  | [] => c.peekFault .eofObject
  | x :: _ =>
    if x = '\x7d' then .ok c.next
    else if x = ',' then c.peekFault .trailingComma
    else c.peekFault .trailingCharacters

/-- Reads the items of an array up to its closing bracket. The fuel bounds their number. -/
def readItems {α : Type} (readItem : Reader α) (acc : List α) : Nat → Bool → Reader (List α)
  | 0, _, c => c.fault .eofList
  | fuel + 1, isFirst, c => do
    match ← nextItem? isFirst c with
    | none => .ok (acc.reverse, c)
    | some c =>
      let (item, c) ← readItem c
      readItems readItem (item :: acc) fuel false c

/-- Reads an array after its opening bracket. -/
def readArrayRest {α : Type} (readItem : Reader α) : Reader (List α) := fun c ↦ do
  let (items, c) ← readItems readItem [] (c.rest.length + 1) true c
  let c ← closeArray c
  .ok (items, c)

/-- Reads the fields of an object up to its closing brace. The fuel bounds their number. -/
def readFields (readField : Reader Json) (acc : List (String × Json)) :
    Nat → Bool → Reader (List (String × Json))
  | 0, _, c => c.fault .eofObject
  | fuel + 1, isFirst, c => do
    match ← nextKey? isFirst c with
    | none => .ok (acc, c)
    | some c =>
      let (name, c) ← readStringRest c.next
      let c ← readColon c
      let (value, c) ← readField c
      readFields readField (insertField name value acc) fuel false c

/-- How many arrays and objects may be open at once. -/
def nestingLimit : Nat := 127

/-- Reads a value inside which `room` further arrays and objects may be opened. -/
def readValue : Nat → Reader Json
  | room, c =>
    let c := c.space
    match c.rest with
    | [] => c.peekFault .eofValue
    | x :: _ =>
      if x = 'n' then do
        .ok (.null, ← readWordRest ['u', 'l', 'l'] c.next)
      else if x = 't' then do
        .ok (.bool true, ← readWordRest ['r', 'u', 'e'] c.next)
      else if x = 'f' then do
        .ok (.bool false, ← readWordRest ['a', 'l', 's', 'e'] c.next)
      else if x = '-' then do
        let (n, c) ← readNumber true c.next
        .ok (.number n, c)
      else if (digitValue? x).isSome then do
        let (n, c) ← readNumber false c
        .ok (.number n, c)
      else if x = '"' then do
        let (s, c) ← readStringRest c.next
        .ok (.string s, c)
      else if x = '[' then
        match room with
        | 0 => c.peekFault .recursionLimit
        | room + 1 => do
          let (items, c) ← readArrayRest (readValue room) c.next
          .ok (.array items, c)
      else if x = '\x7b' then
        match room with
        | 0 => c.peekFault .recursionLimit
        | room + 1 => do
          let (fields, c) ← readFields (readValue room) [] (c.rest.length + 1) true c.next
          .ok (.object fields, ← closeObject c)
      else c.peekFault .expectedValue

/-- Checks that nothing but white space is left. -/
def finish (c : Cursor) : Except ReadError Unit :=
  let c := c.space
  if c.rest.isEmpty then .ok () else c.peekFault .trailingCharacters

/-- Reads the whole text with a reader. -/
def readWhole {α : Type} (reader : Reader α) (s : String) : Except ReadError α := do
  let (value, c) ← reader (.start s)
  finish c
  .ok value

def parse (s : String) : Except ReadError Json := readWhole (readValue nestingLimit) s

end Redline.Json
