import Redline.Context.Store
import Redline.Reply.Basic
import Redline.Turn.Basic

/-!
# From a reply to a turn

A reply becomes the turn that takes the place of the loading mark. A proposal for the active file is
compared with that file's content at the time of the reply. A proposal for several files is compared
with what the request carried; a file that it did not carry counts as new, with a warning.
-/

namespace Redline.Turn

/-- The change of a proposed file against its captured content. -/
def changeOf (snapshot : ContextSnapshot) (file : ProposedFile) : FileChange :=
  ⟨file.path, (snapshot.lookup? file.path).getD "", file.content⟩

/-- The warning about a proposed file that the request did not carry. -/
def newFileWarning (path : String) : Event :=
  .warning (path ++ " was not part of the request context; treating it as a new file")

/-- The warnings about proposed files that the request did not carry, in order. -/
def newFileWarnings (snapshot : ContextSnapshot) (files : List ProposedFile) : List Event :=
  (files.filter fun f ↦ (snapshot.lookup? f.path).isNone).map fun f ↦ newFileWarning f.path

/-- The turn and the event of a malformed reply. -/
def malformed (reason : String) : Turn × List Event :=
  let message := "Malformed backend reply: " ++ reason
  (.error message, [.error message])

/-- The turn of a reply and the events on the way, given the active file's present content and what
the request carried. -/
def ofReply (active : FileSnapshot) (snapshot : ContextSnapshot) : Reply → Turn × List Event
  | .explanation text => (.explanation text, [])
  | .replaceFile content => (.replaceFile (.single ⟨active.path, active.content, content⟩), [])
  | .explanationWithChanges why code =>
    (.explanationWithChanges why (.single ⟨active.path, active.content, code⟩), [])
  | .multiFileChange why files =>
    let warnings := newFileWarnings snapshot files
    match ChangeSet.ofChanges (files.map (changeOf snapshot)) with
    | .ok changes => (.multiFileChange why changes, warnings)
    | .error e =>
      let (turn, events) := malformed e.message
      (turn, warnings ++ events)
  | .backendError message =>
    (.error message, [.error ("Backend reported an error: " ++ message)])
  | .malformed reason => malformed reason

end Redline.Turn
