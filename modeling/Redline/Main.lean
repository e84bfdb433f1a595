import Redline.Console.Program
import Redline.Shell.Run

/-!
# The command line

The files of the workspace are read before every line of the input and those that a line changed are
written after it, so that the program always works on the files as they are. Requests over HTTP
reach nobody, and the command backend runs the built-in programs.
-/

namespace Redline.CommandLine

open Console

/-- The entries for a place and the directories above it. -/
def entriesTo (path : TreePath) (node : Node) : List (TreePath × Node) :=
  (List.range path.length).map fun n ↦
    (path.take (n + 1), if n + 1 = path.length then node else .directory)

/-- The names on the way to an absolute path. -/
def placeOf (text : String) : TreePath :=
  (Route.ofText [] text).filter fun field ↦ !Route.isIdle field

/-- The entries below a directory. Links to directories are left out. -/
partial def scan (path : TreePath) : IO (List (TreePath × Node)) := do
  let mut entries := #[]
  for entry in ← (← IO.FS.realPath (Route.text path)).readDir do
    let place := path ++ [entry.fileName]
    if ← entry.path.isDir then
      if (← IO.FS.realPath entry.path).toString = Route.text place then
        entries := entries.push (place, .directory) ++ (← scan place)
    else
      try
        let bytes ← IO.FS.readBinFile entry.path
        entries := entries.push (place, .file (.ofBytes bytes.toList))
      catch _ => continue
  return entries.toList

/-- The directory at a path with what is below it, or the file at it. -/
def loadExisting (path : String) : IO (List (TreePath × Node)) := do
  let real ← IO.FS.realPath path
  if ← real.isDir then
    return entriesTo (placeOf real.toString) .directory ++ (← scan (placeOf real.toString))
  else
    let bytes ← IO.FS.readBinFile path
    return entriesTo (placeOf real.toString) (.file (.ofBytes bytes.toList))

/-- What stands at a path, or nothing if that cannot be read. -/
def load (path : String) : IO (List (TreePath × Node)) := do
  try loadExisting path catch _ => return []

/-- Writes what stands in a tree and not in an older one. -/
def save (old new : FileTree) : IO Unit :=
  for (path, node) in new.entries do
    if old.node? path ≠ some node then
      match node with
      | .directory => IO.FS.createDirAll (Route.text path)
      | .file content => IO.FS.writeBinFile (Route.text path) ⟨content.bytes.toArray⟩
      | .link _ => pure ()

/-- The values of the variables that the program knows. -/
def environment : IO Environment := do
  Variable.all.filterMapM fun v ↦ do
    return (← IO.getEnv v.name).map fun value ↦ (v.name, value)

def display (lines : List String) : IO Unit := do
  let output ← IO.getStdout
  output.putStr (printed lines)
  output.flush

/-- Answers the lines of the input until one of them ends the program. -/
partial def loop (root : String) (app : Running Unit) : IO Unit := do
  let text ← (← IO.getStdin).getLine
  if text.isEmpty then return
  let tree : FileTree := ⟨← load root⟩
  let app := { app with surface := { app.surface with tree } }
  let line := (Text.displayLinesOf text).headD ""
  let response := step .offline (Shell.launcher app.surface.root) app line
  save tree response.state.surface.tree
  display response.lines
  unless response.isEnd do loop root response.state

/-- Runs the program. -/
def run : IO UInt32 := do
  let here ← IO.currentDir
  let env ← environment
  let settings := Settings.ofEnvironment env
  let configured ← match settings.httpConfigPath with
    | some path => load path
    | none => pure []
  let root := settings.workspace.getD here.toString
  let tree : FileTree := ⟨(← load root) ++ configured⟩
  match start () tree (placeOf here.toString) env with
  | .error failure =>
    (← IO.getStderr).putStr failure.report
    return 1
  | .ok app =>
    display (bannerLines (Service.backend .offline (Shell.launcher app.surface.root)) app)
    loop root app
    return 0

end Redline.CommandLine

def main : IO UInt32 := Redline.CommandLine.run
