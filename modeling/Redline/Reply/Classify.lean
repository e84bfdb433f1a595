import Redline.Json.Value
import Redline.Reply.Basic
import Redline.Text.Blank

/-!
# Understanding a reply

A reply is an object with a `type` and the fields of that type:

* `explanation` and `replace_file`: `content`;
* `explanation_with_changes`: `explanation` and `code`;
* `multi_file_change`: `explanation` and `changes`, a list of files with `filePath` and
  `newContent`;
* `error`: `message`.

Fields are looked at in the order of their names, and the first of a wrong shape is reported; a
missing field is reported only when no field is wrong. Other fields do not matter. A file of a
change may also be written as the list of its two texts.
-/

namespace Redline

open Redline.Json

/-- Why a reply is malformed. -/
inductive Malformation
  /-- It is not an object. -/
  | notObject (kind : String)
  /-- It has no type. -/
  | missingType
  /-- Its type is not a string. -/
  | typeNotString (kind : String)
  /-- Its type is not known. -/
  | unknownType (type : String)
  /-- A field of its type is wrong or missing. -/
  | invalid (type : String) (mismatch : Mismatch)
  /-- It changes no file. -/
  | noChanges
  /-- A changed file has a blank path. -/
  | blankPath (index : Nat)
  /-- A path is given twice. -/
  | repeatedPath (path : String)
deriving DecidableEq, Repr

def Malformation.message : Malformation → String
  | .notObject kind => "expected a JSON object, got " ++ kind
  | .missingType => "missing `type` field"
  | .typeNotString kind => "`type` must be a string, got " ++ kind
  | .unknownType type => "unknown reply type " ++ ticked type
  | .invalid type m => "invalid " ++ ticked type ++ " reply: " ++ m.message
  | .noChanges => "`multi_file_change` reply has an empty `changes` list"
  | .blankPath i => "change " ++ toString i ++ " has a blank `filePath`"
  | .repeatedPath path => ticked path ++ " appears more than once in `changes`"

namespace Reply

/-! ## Fields -/

def textOf : Json → Except Mismatch String
  | .string s => .ok s
  | value => .error (.invalidType value.found "a string")

/-- A field's value if it is given, or what is wrong with it. -/
def given? {α : Type} (read : Json → Except Mismatch α) (name : String)
    (fields : List (String × Json)) : Except Mismatch (Option α) :=
  match lookup? name fields with
  | none => .ok none
  | some value =>
    match read value with
    | .ok x => .ok (some x)
    | .error m => .error m

/-- The value of a required field. -/
def required {α : Type} (name : String) : Option α → Except Mismatch α
  | some x => .ok x
  | none => .error (.missingField name)

/-- The text of a required field that is the only one. -/
def textField (name : String) (fields : List (String × Json)) : Except Mismatch String := do
  required name (← given? textOf name fields)

/-- The first two of the texts in a list of values. -/
def pairOf : List Json → Except Mismatch ProposedFile
  | [] => .error (.invalidLength 0 "struct ProposedFile with 2 elements")
  | [path] => do
    let _ ← textOf path
    .error (.invalidLength 1 "struct ProposedFile with 2 elements")
  | path :: content :: more => do
    let path ← textOf path
    let content ← textOf content
    if more.isEmpty then .ok ⟨path, content⟩
    else .error (.invalidLength (2 + more.length) "2 elements in sequence")

/-- A file of a change. -/
def proposedFileOf : Json → Except Mismatch ProposedFile
  | .object fields => do
    let path? ← given? textOf "filePath" fields
    let content? ← given? textOf "newContent" fields
    .ok ⟨← required "filePath" path?, ← required "newContent" content?⟩
  | .array items => pairOf items
  | value => .error (.invalidType value.found "struct ProposedFile")

def proposedFilesOf : List Json → Except Mismatch (List ProposedFile)
  | [] => .ok []
  | item :: items => do
    let file ← proposedFileOf item
    .ok (file :: (← proposedFilesOf items))

/-- The files of a change. -/
def changesOf : Json → Except Mismatch (List ProposedFile)
  | .array items => proposedFilesOf items
  | value => .error (.invalidType value.found "a sequence")

/-! ## Changed files -/

/-- Checks files from the given index on: paths are not blank and stand neither twice nor in `seen`.
-/
def checkPaths : Nat → List String → List ProposedFile → Except Malformation Unit
  | _, _, [] => .ok ()
  | index, seen, file :: files =>
    if Text.isBlankText file.path then .error (.blankPath index)
    else if seen.contains file.path then .error (.repeatedPath file.path)
    else checkPaths (index + 1) (file.path :: seen) files

/-- Checks the files of a change: there is one, and the paths are distinct and not blank. -/
def checkChanges (changes : List ProposedFile) : Except Malformation Unit :=
  if changes.isEmpty then .error .noChanges else checkPaths 0 [] changes

/-! ## Kinds -/

/-- The known types of replies. -/
def knownTypes : List String :=
  ["explanation", "replace_file", "explanation_with_changes", "multi_file_change", "error"]

/-- The reply of a known type with the given fields. -/
def ofFields (type : String) (fields : List (String × Json)) : Except Mismatch Reply :=
  if type = "explanation" then do
    .ok (.explanation (← textField "content" fields))
  else if type = "replace_file" then do
    .ok (.replaceFile (← textField "content" fields))
  else if type = "explanation_with_changes" then do
    let code? ← given? textOf "code" fields
    let explanation? ← given? textOf "explanation" fields
    .ok (.explanationWithChanges (← required "explanation" explanation?) (← required "code" code?))
  else if type = "multi_file_change" then do
    let changes? ← given? changesOf "changes" fields
    let explanation? ← given? textOf "explanation" fields
    .ok (.multiFileChange (← required "explanation" explanation?) (← required "changes" changes?))
  else do
    .ok (.backendError (← textField "message" fields))

def ofJson (value : Json) : Except Malformation Reply :=
  match value with
  | .object fields =>
    match lookup? "type" fields with
    | none => .error .missingType
    | some (.string type) =>
      if knownTypes.contains type then
        match ofFields type fields with
        | .error m => .error (.invalid type m)
        | .ok (.multiFileChange why changes) => do
          checkChanges changes
          .ok (.multiFileChange why changes)
        | .ok reply => .ok reply
      else .error (.unknownType type)
    | some other => .error (.typeNotString other.kindName)
  | other => .error (.notObject other.kindName)

/-- The reply that a value denotes, or a malformed one with the reason. -/
def classify (value : Json) : Reply :=
  match ofJson value with
  | .ok reply => reply
  | .error m => .malformed m.message

end Reply

end Redline
