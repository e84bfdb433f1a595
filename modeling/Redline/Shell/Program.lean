import Redline.Command.Exchange
import Redline.FileTree.Access
import Redline.Shell.Format

/-!
# Small programs

A few programs work inside the tool on a file tree, without an operating system: they read their
standard input, write to their two outputs, take some time and end. They serve as building blocks of
backends.
-/

namespace Redline.Shell

open Redline.Text

/-- What a program works with. -/
structure Surroundings where
  /-- The file tree. -/
  tree : FileTree
  /-- The directory in which the program runs. -/
  here : TreePath
  /-- The part of the standard input that is still to be read. -/
  input : List UInt8

/-- What a program has done when it ends. -/
structure Effect where
  /-- What it wrote, in order: whether it is error output, and the bytes. -/
  output : List (Bool × List UInt8) := []
  /-- How it ended. -/
  ending : Ending := .exited 0
  /-- The part of the standard input that it left. -/
  input : List UInt8
  /-- The time that it took, in nanoseconds. -/
  elapsed : Nat := 0

/-- A program, given its arguments. -/
abbrev Program := List String → Surroundings → Effect

/-- A line of error output. -/
def complaint (text : String) : Bool × List UInt8 := (true, encode (text ++ "\n"))

/-- Ends with a complaint. -/
def failWith (s : Surroundings) (code : Nat) (text : String) : Effect :=
  { output := [complaint text], ending := .exited code, input := s.input }

/-- Ends at once with an exit code. -/
def endWith (code : Nat) : Program := fun _ s ↦ { ending := .exited code, input := s.input }

/-- Writes the words after it, with blanks between them. -/
def echoWords : Program := fun args s ↦
  let (args, ending) := match args with
    | "-n" :: args => (args, "")
    | args => (args, "\n")
  let (bytes, isEnd) := unescape (joinWith " " args).length (joinWith " " args).toList
  { output := [(false, if isEnd then bytes else bytes ++ encode ending)], input := s.input }

/-- Writes its arguments by a format. -/
def printFormat : Program := fun args s ↦
  match args with
  | [] => failWith s 1 "printf: missing operand\nTry 'printf --help' for more information."
  | text :: args =>
    let w := format text args
    { output := (false, w.bytes) ::
        w.faulty.map fun arg ↦ complaint ("printf: '" ++ arg ++ "': expected a numeric value")
      ending := .exited (if w.faulty.isEmpty then 0 else 1)
      input := s.input }

/-- The content of a file, or what is wrong with it. -/
def fileBytes (s : Surroundings) (path : String) : Except Fault (List UInt8) :=
  (s.tree.readBytes (Route.ofText s.here path)).map Content.bytes

/-- Adds the content of a file to what has been written; a dash is the standard input. -/
def catFile (s : Surroundings) (e : Effect) (path : String) : Effect :=
  if path = "-" ∨ path = "/dev/stdin" then
    { e with output := e.output ++ [(false, e.input)], input := [] }
  else if path = "/dev/null" then e
  else match fileBytes s path with
    | .ok bytes => { e with output := e.output ++ [(false, bytes)] }
    | .error fault =>
      { e with
        output := e.output ++ [complaint ("cat: " ++ path ++ ": " ++ fault.title.1)]
        ending := .exited 1 }

/-- Writes the contents of files, or its input. -/
def catFiles : Program := fun args s ↦
  (if args.isEmpty then ["-"] else args).foldl (catFile s) { input := s.input }

/-- The seconds of a unit of time. -/
def unitSeconds : List (Char × Nat) := [('s', 1), ('m', 60), ('h', 3600), ('d', 86400)]

/-- The nanoseconds that an argument of `sleep` denotes. -/
def pauseOf? (arg : String) : Option Nat := do
  let cs := arg.toList
  let (unit, cs) := match cs.getLast?.bind fun c ↦ unitSeconds.lookup c with
    | some unit => (unit, cs.dropLast)
    | none => (1, cs)
  let (whole, fraction) ← match fields '.' cs with
    | [whole] => some (whole, [])
    | [whole, fraction] => some (whole, fraction)
    | _ => none
  if whole.isEmpty && fraction.isEmpty then none
  let value (ds : List Char) : Option Nat :=
    ds.foldlM (fun n c ↦ (digitValue? c).map (n * 10 + ·)) 0
  let n ← value (whole ++ fraction)
  some (n * unit * 1000000000 / Nat.pow 10 fraction.length)

/-- Lets time pass. -/
def sleep : Program := fun args s ↦
  if args.isEmpty then
    failWith s 1 "sleep: missing operand\nTry 'sleep --help' for more information."
  else match args.find? fun arg ↦ (pauseOf? arg).isNone with
    | some arg =>
      failWith s 1 ("sleep: invalid time interval '" ++ arg ++
        "'\nTry 'sleep --help' for more information.")
    | none => { input := s.input, elapsed := (args.filterMap pauseOf?).foldl (· + ·) 0 }

/-- Writes the directory in which it runs. -/
def writeDirectory : Program := fun _ s ↦
  { output := [(false, encode (Route.text s.here ++ "\n"))], input := s.input }

/-- The programs by name. -/
def programs : List (String × Program) := [
  ("true", endWith 0), ("false", endWith 1), ("cat", catFiles), ("echo", echoWords),
  ("printf", printFormat), ("sleep", sleep), ("pwd", writeDirectory)]

end Redline.Shell
