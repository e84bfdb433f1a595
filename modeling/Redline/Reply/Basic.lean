/-!
# Replies

A backend answers a request with a JSON value. Understood, it is one of five kinds: an explanation,
the full replacement of the active file with or without an explanation, replacements of several
files, or an error of the backend's own. Everything else is a malformed reply with a reason.
-/

namespace Redline

/-- A file proposed by a reply. -/
structure ProposedFile where
  /-- The path as the backend spells it. -/
  path : String
  /-- The full content proposed. -/
  content : String
deriving DecidableEq, Repr

/-- A reply, understood. -/
inductive Reply
  /-- An answer in words. -/
  | explanation (text : String)
  /-- A content for the active file. -/
  | replaceFile (content : String)
  /-- A content for the active file, explained. -/
  | explanationWithChanges (explanation code : String)
  /-- Contents for several files, explained. -/
  | multiFileChange (explanation : String) (changes : List ProposedFile)
  /-- An error that the backend reports. -/
  | backendError (message : String)
  /-- A reply that fits no kind. -/
  | malformed (reason : String)
deriving DecidableEq, Repr

namespace Reply

def isMalformed : Reply → Bool
  | .malformed _ => true
  | _ => false

/-- A reply that proposes contents for files. -/
def proposesChanges : Reply → Bool
  | .replaceFile _ | .explanationWithChanges _ _ | .multiFileChange _ _ => true
  | _ => false

end Reply

end Redline
