import Redline.Decimal.Shortest
import Redline.Text.Quoted

/-!
# JSON values

Replies, requests, settings files and error bodies are JSON. A value keeps the fields of an object
as a list: the order of the list is the order in which a printer writes them, and a reader lists
them in ascending order of their names with every name once.
-/

namespace Redline

open Redline.Decimal

/-- A JSON number: a whole number of at most 64 bits, or a double. -/
inductive Number
  /-- A whole number from `-2 ^ 63` up to `2 ^ 64 - 1`. -/
  | integer (value : Int)
  /-- Every other number. -/
  | double (value : Double)
deriving DecidableEq, Repr

/-- A JSON value. -/
inductive Json
  | null
  | bool (value : Bool)
  | number (value : Number)
  | string (value : String)
  | array (items : List Json)
  | object (fields : List (String × Json))
deriving Inhabited

namespace Json

/-! ## Fields -/

/-- The value of the first field with the given name. -/
def lookup? (name : String) : List (String × Json) → Option Json
  | [] => none
  | (key, value) :: rest => if key = name then some value else lookup? name rest

/-- Puts a field among fields in ascending order of their names, in place of one of the same name.
-/
def insertField (name : String) (value : Json) : List (String × Json) → List (String × Json)
  | [] => [(name, value)]
  | (key, old) :: rest =>
    if key = name then (name, value) :: rest
    else if name < key then (name, value) :: (key, old) :: rest
    else (key, old) :: insertField name value rest

def field? (name : String) : Json → Option Json
  | .object fields => lookup? name fields
  | _ => none

/-- The kind of a value as named in messages about replies. -/
def kindName : Json → String
  | .null => "null"
  | .bool _ => "a boolean"
  | .number _ => "a number"
  | .string _ => "a string"
  | .array _ => "an array"
  | .object _ => "an object"

end Json

/-! ## Values of the wrong shape -/

/-- What stands where something else was expected. -/
inductive Json.Found
  | null
  | bool (value : Bool)
  | integer (value : Int)
  | double (value : Double)
  | string (value : String)
  | sequence
  | map
deriving DecidableEq, Repr

def Json.Found.describe : Json.Found → String
  | .null => "null"
  | .bool true => "boolean `true`"
  | .bool false => "boolean `false`"
  | .integer i => "integer `" ++ toString i ++ "`"
  | .double d => "floating point `" ++ String.ofList d.write ++ "`"
  | .string s => "string " ++ Text.quote s
  | .sequence => "sequence"
  | .map => "map"

def Json.found : Json → Json.Found
  | .null => .null
  | .bool b => .bool b
  | .number (.integer i) => .integer i
  | .number (.double d) => .double d
  | .string s => .string s
  | .array _ => .sequence
  | .object _ => .map

/-- Why a well-formed value does not have the expected shape. -/
inductive Json.Mismatch
  /-- A value of another type. -/
  | invalidType (found : Found) (expected : String)
  /-- A value of the type, but outside its range. -/
  | invalidValue (found : Found) (expected : String)
  /-- A sequence of the wrong length. -/
  | invalidLength (length : Nat) (expected : String)
  /-- A field with a name that is not known. -/
  | unknownField (name : String) (known : List String)
  /-- A field given twice. -/
  | duplicateField (name : String)
  /-- A required field that is not given. -/
  | missingField (name : String)
deriving DecidableEq, Repr

/-- A field's name between backquotes. -/
def Json.ticked (name : String) : String := "`" ++ name ++ "`"

def Json.Mismatch.message : Json.Mismatch → String
  | .invalidType found expected => "invalid type: " ++ found.describe ++ ", expected " ++ expected
  | .invalidValue found expected => "invalid value: " ++ found.describe ++ ", expected " ++ expected
  | .invalidLength n expected => "invalid length " ++ toString n ++ ", expected " ++ expected
  | .unknownField name known =>
    "unknown field " ++ ticked name ++ ", expected one of " ++ ", ".intercalate (known.map ticked)
  | .duplicateField name => "duplicate field " ++ ticked name
  | .missingField name => "missing field " ++ ticked name

end Redline
