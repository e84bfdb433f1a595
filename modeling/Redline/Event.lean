/-!
# Events

A step of a session reports what happened as events, in the order in which they happened. Front ends
show or record them; nothing in a session depends on them.
-/

namespace Redline

/-- How serious an event is. -/
inductive Level
  | info
  | warning
  | error
deriving DecidableEq, Repr

def Level.name : Level → String
  | .info => "info"
  | .warning => "warning"
  | .error => "error"

/-- Something that happened. -/
structure Event where
  /-- How serious it is. -/
  level : Level
  /-- What happened. -/
  message : String
deriving DecidableEq, Repr

namespace Event

/-- An event that needs no attention. -/
def info (message : String) : Event := ⟨.info, message⟩

/-- An event that the user should know of. -/
def warning (message : String) : Event := ⟨.warning, message⟩

/-- A failure. -/
def error (message : String) : Event := ⟨.error, message⟩

def display (e : Event) : String := e.level.name ++ ": " ++ e.message

def count (level : Level) (events : List Event) : Nat := events.countP fun e ↦ e.level == level

/-- The messages of the warnings among events. -/
def warnings (events : List Event) : List String :=
  (events.filter fun e ↦ e.level == .warning).map Event.message

end Event

end Redline
