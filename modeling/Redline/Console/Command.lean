import Redline.Text.Blank
import Redline.Text.Numeral
import Redline.Text.Split

/-!
# Commands of the console

A line that begins with a slash is a command: a name, and an argument after white space. All other
lines are prompts. Some commands need an argument, some may have one, and the others ignore it.
-/

namespace Redline.Console

open Redline.Text

/-- A command of the user. -/
inductive Command
  /-- Show what commands there are. -/
  | help
  /-- Start a new conversation. -/
  | clear
  /-- Focus a file. -/
  | focus (path : String)
  /-- Track a context file. -/
  | track (path : String)
  /-- Stop tracking a context file. -/
  | untrack (path : String)
  /-- Show the focused file and the context files. -/
  | listContext
  /-- Show the model, or select one. -/
  | model (id : Option String)
  /-- Apply the changes of a turn, or of the latest turn that has some. -/
  | apply (turn : Option Nat)
  /-- End the program. -/
  | quit
  /-- A command whose argument is missing or wrong; `form` is how it is used. -/
  | usage (form : String)
  /-- There is no command of this name. -/
  | unknown (name : String)
deriving DecidableEq, Repr

/-- The lines that say what commands there are. -/
def helpLines : List String := [
  "type a message to ask about the active file",
  "/open <path>     focus a file in the workspace",
  "/add <path>      include a file as context",
  "/remove <path>   stop including a context file",
  "/context         list the active file and context files",
  "/model [id]      show or select the model",
  "/apply [turn]    write a proposal (latest by default)",
  "/clear           start a new conversation",
  "/help            show this help",
  "/quit            exit"]

namespace Command

/-- The command of a name with an argument. -/
def ofName (name : String) (argument : Option String) : Command :=
  match name with
  | "/help" => .help
  | "/clear" => .clear
  | "/context" => .listContext
  | "/quit" | "/exit" => .quit
  | "/model" => .model argument
  | "/open" => (argument.map .focus).getD (.usage "/open <path>")
  | "/add" => (argument.map .track).getD (.usage "/add <path>")
  | "/remove" => (argument.map .untrack).getD (.usage "/remove <path>")
  | "/apply" =>
    match argument.map readWord with
    | none => .apply none
    | some (.ok turn) => .apply (some turn)
    | some (.error _) => .usage "/apply [turn]"
  | name => .unknown name

/-- The command that a line is, unless it is a prompt. -/
def ofLine? (line : String) : Option Command :=
  match trimChars line.toList with
  | '/' :: rest =>
    match cutFirst? isBlank ('/' :: rest) with
    | some (name, argument) =>
      some (ofName (String.ofList name) (trimmed? (String.ofList argument)))
    | none => some (ofName (String.ofList ('/' :: rest)) none)
  | _ => none

end Command

end Redline.Console
