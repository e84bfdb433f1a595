import Redline.Surface.Basic

/-!
# Recording and scripting a surface

A recorder stands in front of a surface. It keeps the calls that reach it, in order, and it can be
told to answer certain calls with an error of its own, in which case the surface behind it is not
asked.
-/

namespace Redline

/-- A call of one of a surface's operations. -/
inductive SurfaceCall
  | read (path : String)
  | active
  | replace (path : String)
  | batch (paths : List String)
deriving DecidableEq, Repr

/-- A call as displayed. -/
def SurfaceCall.display : SurfaceCall → String
  | .read path => "read " ++ path
  | .active => "active"
  | .replace path => "replace " ++ path
  | .batch paths => "batch " ++ " ".intercalate paths

/-- A recorded surface: the state of the surface behind it and what the recorder keeps. -/
structure Recorded (σ : Type) where
  /-- The state of the surface behind. -/
  inner : σ
  /-- The calls so far, the latest first. -/
  calls : List SurfaceCall := []
  /-- The scripted errors, by key. -/
  errors : List (String × SurfaceError) := []

namespace Recorded

variable {σ : Type}

/-- Keeps a call. -/
def note (r : Recorded σ) (call : SurfaceCall) : Recorded σ := { r with calls := call :: r.calls }

/-- The answer to a call with the given key: the scripted error, or that of the surface behind. -/
def answer {α : Type} (key : String) (call : SurfaceCall) (op : σ → Except SurfaceError α × σ)
    (r : Recorded σ) : Except SurfaceError α × Recorded σ :=
  let r := r.note call
  match r.errors.lookup key with
  | some e => (.error e, r)
  | none =>
    let (result, inner) := op r.inner
    (result, { r with inner := inner })

end Recorded

/-- A surface with a recorder in front of it. -/
def Surface.recorded {σ : Type} (S : Surface σ) : Surface (Recorded σ) where
  read path := Recorded.answer ("read:" ++ path) (.read path) (S.read path)
  active := Recorded.answer "active" .active S.active
  replace path content :=
    Recorded.answer ("write:" ++ path) (.replace path) (S.replace path content)
  batch edits := Recorded.answer "batch" (.batch (edits.map FileEdit.path)) (S.batch edits)

end Redline
