import Redline.Text.Quoted

/-!
# Editing surfaces

The files that a session works on belong to an editor or a directory. A session reaches them through
four operations only: reading a file, asking for the focused file, replacing one file, and replacing
several files at once. A *surface* with states in `σ` answers these operations and may change its
state with each of them, so that a surface can fail, remember its calls or give any answers at all.
-/

namespace Redline

/-- A file's path and content at one time. -/
structure FileSnapshot where
  /-- The path. -/
  path : String
  /-- The content. -/
  content : String
deriving DecidableEq, Repr

/-- A replacement of one file's content. -/
structure FileEdit where
  /-- The path of the file. -/
  path : String
  /-- Its new content. -/
  content : String
deriving DecidableEq, Repr

/-- Why a surface did not do what it was asked. -/
inductive SurfaceError
  /-- There is no such file. -/
  | notFound (path : String)
  /-- The file could not be read. -/
  | read (path message : String)
  /-- The file could not be written. -/
  | write (path message : String)
  /-- The path may not be used. -/
  | rejected (path message : String)
  /-- None of several files was changed. -/
  | batchRejected (message : String)
  /-- Some of several files were changed and could not be changed back. -/
  | partialBatch (applied : List String) (message : String)
deriving DecidableEq, Repr

/-- The wording of an error. -/
def SurfaceError.message : SurfaceError → String
  | .notFound path => "file not found: " ++ path
  | .read path m => "failed to read " ++ path ++ ": " ++ m
  | .write path m => "failed to write " ++ path ++ ": " ++ m
  | .rejected path m => "path rejected " ++ path ++ ": " ++ m
  | .batchRejected m => "batch edit failed, no file was changed: " ++ m
  | .partialBatch applied m =>
    "batch edit failed after partially applying " ++ Text.quoteList applied ++ ": " ++ m

/-- The operations on files that a session needs, over states of type `σ`. -/
structure Surface (σ : Type) where
  /-- The present content of a file. -/
  read : String → σ → Except SurfaceError String × σ
  /-- The focused file with its present content, if a file is focused. -/
  active : σ → Except SurfaceError (Option FileSnapshot) × σ
  /-- Replaces the content of a file. -/
  replace : String → String → σ → Except SurfaceError Unit × σ
  /-- Replaces the contents of several files, all of them or none. -/
  batch : List FileEdit → σ → Except SurfaceError Unit × σ

end Redline
