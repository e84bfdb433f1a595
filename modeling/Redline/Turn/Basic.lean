import Redline.ChangeSet.Basic

/-!
# Turns

A conversation is a list of turns: what the user asked, a mark while the backend thinks, and what
became of the request: an explanation, a proposal of changes, or an error.
-/

namespace Redline

/-- One entry of a conversation. -/
inductive Turn
  /-- What the user asked. -/
  | userInput (text : String)
  /-- The mark of a request under way. -/
  | loading (hint : String)
  /-- An answer in words. -/
  | explanation (text : String)
  /-- A proposal for the active file, explained. -/
  | explanationWithChanges (explanation : String) (changes : ChangeSet)
  /-- A proposal for the active file. -/
  | replaceFile (changes : ChangeSet)
  /-- A proposal for several files, explained. -/
  | multiFileChange (explanation : String) (changes : ChangeSet)
  /-- A failure. -/
  | error (message : String)
deriving DecidableEq, Repr

namespace Turn

/-- The change set that a turn proposes. -/
def changeSet? : Turn → Option ChangeSet
  | .explanationWithChanges _ changes | .replaceFile changes | .multiFileChange _ changes =>
    some changes
  | _ => none

/-- The mark of a request under way. -/
def isLoading : Turn → Bool
  | .loading _ => true
  | _ => false

/-- A failure. -/
def isError : Turn → Bool
  | .error _ => true
  | _ => false

/-- The name of a turn's kind. -/
def kindName : Turn → String
  | .userInput _ => "user_input"
  | .loading _ => "loading"
  | .explanation _ => "explanation"
  | .explanationWithChanges _ _ => "explanation_with_changes"
  | .replaceFile _ => "replace_file"
  | .multiFileChange _ _ => "multi_file_change"
  | .error _ => "error"

end Turn

end Redline
