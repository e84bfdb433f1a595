import Redline.Json.Value

/-!
# Writing JSON

The compact text of a value: no white space, strings with escapes for quotation marks, backslashes
and control characters only, doubles as their shortest decimals, and fields in the order of their
list.
-/

namespace Redline.Json

open Redline.Text Redline.Decimal

/-! ## Strings -/

/-- The characters that stand for `c` inside a JSON string. -/
def escapeChar (c : Char) : List Char :=
  if c = '"' then ['\\', '"']
  else if c = '\\' then ['\\', '\\']
  else if c = '\n' then ['\\', 'n']
  else if c = '\r' then ['\\', 'r']
  else if c = '\t' then ['\\', 't']
  else if c.toNat = 0x08 then ['\\', 'b']
  else if c.toNat = 0x0C then ['\\', 'f']
  else if c.toNat < 0x10 then ['\\', 'u', '0', '0', '0'] ++ hexDigits c.toNat
  else if c.toNat < 0x20 then ['\\', 'u', '0', '0'] ++ hexDigits c.toNat
  else [c]

def writeString (s : String) : List Char := '"' :: s.toList.flatMap escapeChar ++ ['"']

/-! ## Values -/

/-- The text of a JSON number. -/
def writeNumber : Number → List Char
  | .integer i => (toString i).toList
  | .double d => d.write

mutual

def write : Json → List Char
  | .null => ['n', 'u', 'l', 'l']
  | .bool true => ['t', 'r', 'u', 'e']
  | .bool false => ['f', 'a', 'l', 's', 'e']
  | .number n => writeNumber n
  | .string s => writeString s
  | .array items => '[' :: writeItems items ++ [']']
  | .object fields => '\x7b' :: writeFields fields ++ ['\x7d']

def writeItems : List Json → List Char
  | [] => []
  | item :: [] => write item
  | item :: more => write item ++ ',' :: writeItems more

def writeFields : List (String × Json) → List Char
  | [] => []
  | (name, value) :: [] => writeString name ++ ':' :: write value
  | (name, value) :: more => writeString name ++ ':' :: write value ++ ',' :: writeFields more

end

def render (value : Json) : String := String.ofList (write value)

end Redline.Json
