import Redline.Text.Split

/-!
# Failures to start

A failure is told with the causes behind it, the nearest first: on one line, or as the report with
which the program ends.
-/

namespace Redline.Console

open Redline.Text

/-- Why the program cannot start. -/
structure Failure where
  /-- What failed. -/
  summary : String
  /-- Why, the nearest cause first. -/
  causes : List String := []
deriving DecidableEq, Repr

namespace Failure

def line (f : Failure) : String := joinWith ": " (f.summary :: f.causes)

/-- A cause in a report: the first line after its mark, the others below it. -/
def indented (mark : String) (cause : String) : String :=
  mark ++ joinWith ("\n" ++ String.ofList (List.replicate mark.length ' ')) (splitAll '\n' cause)

/-- The causes in a report; they are numbered when there are several. -/
def causeLines : List String → List String
  | [cause] => [indented "    " cause]
  | causes => causes.zipIdx.map fun (cause, n) ↦
    let number := toString n
    indented (String.ofList (List.replicate (5 - number.length) ' ') ++ number ++ ": ") cause

/-- The report of a failure. -/
def report (f : Failure) : String :=
  "Error: " ++ f.summary ++ "\n" ++
    if f.causes.isEmpty then ""
    else "\nCaused by:\n" ++ String.join ((causeLines f.causes).map (· ++ "\n"))

end Failure

end Redline.Console
