import Redline.Json.Reader

/-!
# Reading records

A record is read straight from a text, so that the first problem in the text wins, be it a fault of
the syntax or a value of the wrong type. It may be written as an object, with its fields in any
order and each at most once, or as an array of its fields in their declared order.

A mismatch that concerns a whole record, such as a missing field, has no place of its own. It is
placed where the record would end: after its closing bracket if that comes next.
-/

namespace Redline.Json

open Redline.Text Redline.Decimal

/-! ## Values that are not used -/

/-- Passes over the digits at a cursor. -/
def skipDigits (c : Cursor) : Cursor := (scanDigits ⟨0, 0, 0⟩ c.rest c.place).2

/-- Whether a digit stands at a cursor. -/
def atDigit (c : Cursor) : Bool := (c.rest.head?.bind digitValue?).isSome

/-- Passes over an exponent after its letter. -/
def skipExponent (c : Cursor) : Except ReadError Cursor :=
  let c := match c.rest with
    | '+' :: _ => c.next
    | '-' :: _ => c.next
    | _ => c
  if atDigit c then .ok (skipDigits c)
  else if c.rest.isEmpty then c.fault .invalidNumber
  else c.peekFault .invalidNumber

/-- Passes over a number after its sign. Only its form is checked, not its size. -/
def skipNumber (c : Cursor) : Except ReadError Cursor :=
  if !atDigit c then
    if c.rest.isEmpty then c.fault .invalidNumber else c.peekFault .invalidNumber
  else if c.rest.head? = some '0' ∧ atDigit c.next then c.next.peekFault .invalidNumber
  else
    let c := skipDigits c
    match c.rest with
    | '.' :: _ =>
      if atDigit c.next then
        let c := skipDigits c.next
        match c.rest with
        | 'e' :: _ => skipExponent c.next
        | 'E' :: _ => skipExponent c.next
        | _ => .ok c
      else c.next.peekFault .invalidNumber
    | 'e' :: _ => skipExponent c.next
    | 'E' :: _ => skipExponent c.next
    | _ => .ok c

/-- Passes over a string after its opening quotation mark. Escapes are checked for their form only.
-/
def skipChars : Nat → Cursor → Except ReadError Cursor
  | 0, c => c.fault .eofString
  | fuel + 1, c =>
    match c.rest with
    | [] => c.fault .eofString
    | x :: _ =>
      if x = '"' then .ok c.next
      else if x = '\\' then
        let c := c.next
        match c.rest with
        | [] => c.fault .eofString
        | y :: _ =>
          if (simpleEscape? y).isSome then skipChars fuel c.next
          else if y = 'u' then do
            let (_, c) ← readHex c.next
            skipChars fuel c
          else c.peekFault .invalidEscape
      else if x.toNat < 0x20 then c.fault .controlCharacter
      else skipChars fuel c.next

/-- Passes over a string after its opening quotation mark. -/
def skipStringRest (c : Cursor) : Except ReadError Cursor := skipChars (c.rest.length + 1) c

/-- Passes over the name of a field and its colon. -/
def skipKey (c : Cursor) : Except ReadError Cursor :=
  let c := c.space
  match c.rest with
  | [] => c.peekFault .eofObject
  | x :: _ =>
    if x = '"' then do readColon (← skipStringRest c.next) else c.peekFault .keyMustBeString

/-- An array or object that is open around a value. -/
inductive Frame
  | array
  | object
deriving DecidableEq

/-- Closes the brackets that follow a value, up to the next value that has to be read: the answer
holds the brackets then open, or `none` when the outermost value is complete. -/
def leaveValue : List Frame → Cursor → Except ReadError (Option (List Frame) × Cursor)
  | [], c => .ok (none, c)
  | frame :: outer, c =>
    let c := c.space
    match frame, c.rest with
    | .array, [] => c.peekFault .eofList
    | .object, [] => c.peekFault .eofObject
    | .array, x :: _ =>
      if x = ',' then .ok (some (frame :: outer), c.next)
      else if x = ']' then leaveValue outer c.next
      else c.peekFault .expectedCommaOrBracket
    | .object, x :: _ =>
      if x = ',' then do .ok (some (frame :: outer), ← skipKey c.next)
      else if x = '\x7d' then leaveValue outer c.next
      else c.peekFault .expectedCommaOrBrace

/-- Passes over values inside the given open brackets until the outermost is complete. The fuel
bounds the number of values and brackets. Nesting is not limited. -/
def skipValues : Nat → List Frame → Cursor → Except ReadError Cursor
  | 0, _, c => c.fault .eofValue
  | fuel + 1, frames, c =>
    let c := c.space
    let leave (c : Cursor) : Except ReadError Cursor := do
      match ← leaveValue frames c with
      | (none, c) => .ok c
      | (some frames, c) => skipValues fuel frames c
    match c.rest with
    | [] => c.peekFault .eofValue
    | x :: _ =>
      if x = 'n' then do leave (← readWordRest ['u', 'l', 'l'] c.next)
      else if x = 't' then do leave (← readWordRest ['r', 'u', 'e'] c.next)
      else if x = 'f' then do leave (← readWordRest ['a', 'l', 's', 'e'] c.next)
      else if x = '-' then do leave (← skipNumber c.next)
      else if (digitValue? x).isSome then do leave (← skipNumber c)
      else if x = '"' then do leave (← skipStringRest c.next)
      else if x = '[' then
        let inner := c.next.space
        match inner.rest with
        | [] => inner.peekFault .eofList
        | y :: _ => if y = ']' then leave inner.next else skipValues fuel (.array :: frames) inner
      else if x = '\x7b' then
        let inner := c.next.space
        match inner.rest with
        | [] => inner.peekFault .eofObject
        | y :: _ =>
          if y = '\x7d' then leave inner.next
          else do skipValues fuel (.object :: frames) (← skipKey inner)
      else c.peekFault .expectedValue

/-- Passes over one value. -/
def skipValue (c : Cursor) : Except ReadError Cursor := skipValues (c.rest.length + 1) [] c

/-! ## Typed values -/

/-- Reads what stands at the cursor far enough to say that it is not what was expected. An array or
an object is not entered. -/
def readUnexpected {α : Type} (expected : String) : Reader α := fun c ↦
  let wrong (found : Found) (c : Cursor) : Except ReadError (α × Cursor) :=
    c.mismatch (.invalidType found expected)
  match c.rest with
  | [] => c.peekFault .expectedValue
  | x :: _ =>
    if x = 'n' then do wrong .null (← readWordRest ['u', 'l', 'l'] c.next)
    else if x = 't' then do wrong (.bool true) (← readWordRest ['r', 'u', 'e'] c.next)
    else if x = 'f' then do wrong (.bool false) (← readWordRest ['a', 'l', 's', 'e'] c.next)
    else if x = '-' then do
      let (n, c) ← readNumber true c.next
      wrong (Json.number n).found c
    else if (digitValue? x).isSome then do
      let (n, c) ← readNumber false c
      wrong (Json.number n).found c
    else if x = '"' then do
      let (s, c) ← readStringRest c.next
      wrong (.string s) c
    else if x = '[' then wrong .sequence c
    else if x = '\x7b' then wrong .map c
    else c.peekFault .expectedValue

def readString : Reader String := fun c ↦
  let c := c.space
  match c.rest with
  | [] => c.peekFault .eofValue
  | x :: _ => if x = '"' then readStringRest c.next else readUnexpected "a string" c

/-- Reads a whole number of at most 64 bits without a sign. -/
def readWord64 : Reader Nat := fun c ↦
  let c := c.space
  let check : Number × Cursor → Except ReadError (Nat × Cursor)
    | (.integer (.ofNat n), c) => .ok (n, c)
    | (.integer i, c) => c.mismatch (.invalidValue (.integer i) "u64")
    | (.double d, c) => c.mismatch (.invalidType (.double d) "u64")
  match c.rest with
  | [] => c.peekFault .eofValue
  | x :: _ =>
    if x = '-' then do check (← readNumber true c.next)
    else if (digitValue? x).isSome then do check (← readNumber false c)
    else readUnexpected "u64" c

/-- Reads a value that may be `null`. -/
def readOptional {α : Type} (reader : Reader α) : Reader (Option α) := fun c ↦
  let c := c.space
  match c.rest with
  | 'n' :: _ => do .ok (none, ← readWordRest ['u', 'l', 'l'] c.next)
  | _ => do
    let (x, c) ← reader c
    .ok (some x, c)

/-- Reads an array of values of one type. -/
def readList {α : Type} (readItem : Reader α) : Reader (List α) := fun c ↦
  let c := c.space
  match c.rest with
  | [] => c.peekFault .eofValue
  | x :: _ => if x = '[' then readArrayRest readItem c.next else readUnexpected "a sequence" c

/-! ## Records -/

/-- A field of a record of which `σ` holds the fields read so far. -/
structure FieldFormat (σ : Type) where
  /-- The name of the field in an object. -/
  name : String
  /-- Whether an array may end before the field. -/
  optional : Bool
  /-- Whether the field has been read. -/
  isGiven : σ → Bool
  /-- Reads the value of the field. -/
  read : σ → Reader σ

/-- How a record is read from its fields. -/
structure RecordFormat (σ α : Type) where
  /-- The name of the record in messages. -/
  title : String
  /-- The fields in their declared order. -/
  fields : List (FieldFormat σ)
  /-- Whether a field with another name is refused; otherwise it is passed over. -/
  strict : Bool
  /-- No field read yet. -/
  empty : σ
  /-- The record, or the first field in declared order that is missing. -/
  complete : σ → Except Mismatch α

/-- The cursor where an object would end. -/
def afterObject (c : Cursor) : Cursor :=
  let c := c.space
  if c.rest.head? = some '\x7d' then c.next else c

/-- The cursor where an array would end. -/
def afterArray (c : Cursor) : Cursor :=
  let c := c.space
  if c.rest.head? = some ']' then c.next
  else if c.rest.head? = some ',' then c.next.space
  else c

variable {σ α : Type}

/-- Reads the fields of a record written as an object, up to the closing brace. The fuel bounds
their number. -/
def readNamed (format : RecordFormat σ α) : Nat → Bool → σ → Reader σ
  | 0, _, _, c => c.fault .eofObject
  | fuel + 1, isFirst, given, c => do
    match ← nextKey? isFirst c with
    | none => .ok (given, c)
    | some c =>
      let (name, c) ← readStringRest c.next
      match format.fields.find? fun field ↦ field.name == name with
      | some field =>
        if field.isGiven given then (afterObject c).mismatch (.duplicateField name)
        else
          let (given, c) ← field.read given (← readColon c)
          readNamed format fuel false given c
      | none =>
        if format.strict then
          (afterObject c).mismatch (.unknownField name (format.fields.map FieldFormat.name))
        else
          let c ← skipValue (← readColon c)
          readNamed format fuel false given c

/-- The length that an array of a record's fields should have, in words. -/
def RecordFormat.expectedLength (format : RecordFormat σ α) : String :=
  let n := format.fields.length
  "struct " ++ format.title ++ " with " ++ toString n ++ (if n = 1 then " element" else " elements")

/-- Reads the fields of a record written as an array, of which `count` have been read. -/
def readListed (format : RecordFormat σ α) : List (FieldFormat σ) → Nat → σ → Reader σ
  | [], _, given, c => .ok (given, c)
  | field :: fields, count, given, c => do
    match ← nextItem? (count == 0) c with
    | none =>
      if field.optional then readListed format fields count given c
      else (afterArray c).mismatch (.invalidLength count format.expectedLength)
    | some c =>
      let (given, c) ← field.read given c
      readListed format fields (count + 1) given c

def readRecord (format : RecordFormat σ α) : Reader α := fun c ↦
  let c := c.space
  match c.rest with
  | [] => c.peekFault .eofValue
  | x :: _ =>
    if x = '\x7b' then do
      let (given, c) ← readNamed format (c.rest.length + 1) true format.empty c.next
      match format.complete given with
      | .ok record => .ok (record, ← closeObject c)
      | .error m => (afterObject c).mismatch m
    else if x = '[' then do
      let (given, c) ← readListed format format.fields 0 format.empty c.next
      match format.complete given with
      | .ok record => .ok (record, ← closeArray c)
      | .error m => (afterArray c).mismatch m
    else readUnexpected ("struct " ++ format.title) c

end Redline.Json
