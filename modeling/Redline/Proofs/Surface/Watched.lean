import Redline.Surface.Basic

/-!
# Watching a surface

What is done to a surface is seen from its calls. A *watched* surface keeps every call that reaches
it, in order, with all that the call was given and the answer that it got. It answers like the
surface behind it.

Much of what is done to a surface is reading files one after another. All that follows from such a
row of reads, such as what has drifted or what is left out, depends on the answers only, so the row
itself is watched once and the rest is read off the answers.
-/

namespace Redline

/-! ## Calls with their answers -/

/-- A call of one of a surface's operations, with what it was given and its answer. -/
inductive Access
  /-- A file was read. -/
  | read (path : String) (answer : Except SurfaceError String)
  | active (answer : Except SurfaceError (Option FileSnapshot))
  /-- One file was replaced. -/
  | replace (path content : String) (answer : Except SurfaceError Unit)
  /-- Several files were replaced. -/
  | batch (edits : List FileEdit) (answer : Except SurfaceError Unit)

namespace Surface

variable {σ α : Type}

def noted (op : σ → Except SurfaceError α × σ) (call : Except SurfaceError α → Access)
    (state : σ × List Access) : Except SurfaceError α × σ × List Access :=
  let (answer, s) := op state.1
  (answer, s, state.2 ++ [call answer])

/-- A surface that is watched: its states hold the calls so far. -/
def watched (S : Surface σ) : Surface (σ × List Access) where
  read path := noted (S.read path) (.read path)
  active := noted S.active .active
  replace path content := noted (S.replace path content) (.replace path content)
  batch edits := noted (S.batch edits) (.batch edits)

theorem read_watched {S : Surface σ} {path : String} {s s' : σ}
    {answer : Except SurfaceError String} (h : S.read path s = (answer, s')) (log : List Access) :
    S.watched.read path (s, log) = (answer, s', log ++ [.read path answer]) := by
  obtain ⟨rfl, rfl⟩ := Prod.mk.inj h
  rfl

theorem active_watched {S : Surface σ} {s s' : σ}
    {answer : Except SurfaceError (Option FileSnapshot)} (h : S.active s = (answer, s'))
    (log : List Access) : S.watched.active (s, log) = (answer, s', log ++ [.active answer]) := by
  obtain ⟨rfl, rfl⟩ := Prod.mk.inj h
  rfl

/-! ## Rows of reads -/

/-- Reads files in order: the answers, and the surface afterwards. -/
def readEach (S : Surface σ) : List String → σ → List (Except SurfaceError String) × σ
  | [], s => ([], s)
  | path :: paths, s =>
    let (answer, s) := S.read path s
    let (answers, s) := S.readEach paths s
    (answer :: answers, s)

variable (S : Surface σ)

@[simp] theorem readEach_nil (s : σ) : S.readEach [] s = ([], s) := rfl

@[simp] theorem readEach_cons (path : String) (paths : List String) (s : σ) :
    S.readEach (path :: paths) s =
      ((S.read path s).1 :: (S.readEach paths (S.read path s).2).1,
        (S.readEach paths (S.read path s).2).2) := rfl

theorem length_readEach (paths : List String) (s : σ) :
    (S.readEach paths s).1.length = paths.length := by
  induction paths generalizing s with
  | nil => rfl
  | cons path paths ih => rw [readEach_cons, List.length_cons, ih, List.length_cons]

theorem readEach_watched (paths : List String) (s : σ) (log : List Access) :
    S.watched.readEach paths (s, log) =
      ((S.readEach paths s).1, (S.readEach paths s).2,
        log ++ List.zipWith .read paths (S.readEach paths s).1) := by
  induction paths generalizing s log with
  | nil => rw [readEach_nil, readEach_nil, List.zipWith_nil_left, List.append_nil]
  | cons path paths ih =>
    have hread : S.watched.read path (s, log) = (_, _, log ++ [.read path _]) :=
      read_watched rfl log
    simp only [readEach_cons, hread, ih, List.zipWith_cons_cons, List.append_assoc,
      List.singleton_append]

end Surface

end Redline
