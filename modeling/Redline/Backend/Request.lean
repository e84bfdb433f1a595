import Redline.Json.Printer
import Redline.Json.Record
import Redline.Surface.Basic

/-!
# Requests

A request carries the user's prompt, the active file, the context files and the model. On the wire
it is a JSON object with the fields `promptText`, `activeFile`, `contextFiles` and `model`, in this
order, where each file is an object with `path` and `content`.
-/

namespace Redline

open Redline.Json

/-- What a backend is asked. -/
structure Request where
  /-- The user's prompt. -/
  prompt : String
  /-- The active file. -/
  active : FileSnapshot
  /-- The context files. -/
  context : List FileSnapshot
  /-- The model to use. -/
  model : String
deriving DecidableEq, Repr

/-! ## Writing -/

def FileSnapshot.toJson (file : FileSnapshot) : Json :=
  .object [("path", .string file.path), ("content", .string file.content)]

namespace Request

def toJson (r : Request) : Json :=
  .object [("promptText", .string r.prompt), ("activeFile", r.active.toJson),
    ("contextFiles", .array (r.context.map FileSnapshot.toJson)), ("model", .string r.model)]

/-- The text of a request on the wire. -/
def wireText (r : Request) : String := r.toJson.render

end Request

/-! ## Reading -/

/-- A required field, or the mismatch that it is missing. -/
def Json.require {α : Type} (name : String) : Option α → Except Mismatch α
  | some x => .ok x
  | none => .error (.missingField name)

/-- The fields of a file read so far. -/
structure PartialFile where
  /-- The path. -/
  path : Option String := none
  /-- The content. -/
  content : Option String := none

def FileSnapshot.format : RecordFormat PartialFile FileSnapshot where
  title := "FileSnapshot"
  strict := false
  empty := {}
  fields := [
    ⟨"path", false, fun g ↦ g.path.isSome, fun g c ↦ do
      let (x, c) ← readString c
      .ok ({ g with path := some x }, c)⟩,
    ⟨"content", false, fun g ↦ g.content.isSome, fun g c ↦ do
      let (x, c) ← readString c
      .ok ({ g with content := some x }, c)⟩]
  complete g := do
    .ok ⟨← require "path" g.path, ← require "content" g.content⟩

/-- The fields of a request read so far. -/
structure PartialRequest where
  /-- The prompt. -/
  prompt : Option String := none
  /-- The active file. -/
  active : Option FileSnapshot := none
  /-- The context files. -/
  context : Option (List FileSnapshot) := none
  /-- The model. -/
  model : Option String := none

namespace Request

def format : RecordFormat PartialRequest Request where
  title := "BackendRequest"
  strict := false
  empty := {}
  fields := [
    ⟨"promptText", false, fun g ↦ g.prompt.isSome, fun g c ↦ do
      let (x, c) ← readString c
      .ok ({ g with prompt := some x }, c)⟩,
    ⟨"activeFile", false, fun g ↦ g.active.isSome, fun g c ↦ do
      let (x, c) ← readRecord FileSnapshot.format c
      .ok ({ g with active := some x }, c)⟩,
    ⟨"contextFiles", false, fun g ↦ g.context.isSome, fun g c ↦ do
      let (x, c) ← readList (readRecord FileSnapshot.format) c
      .ok ({ g with context := some x }, c)⟩,
    ⟨"model", false, fun g ↦ g.model.isSome, fun g c ↦ do
      let (x, c) ← readString c
      .ok ({ g with model := some x }, c)⟩]
  complete g := do
    .ok ⟨← require "promptText" g.prompt, ← require "activeFile" g.active,
      ← require "contextFiles" g.context, ← require "model" g.model⟩

/-- The request that a text on the wire denotes. -/
def ofWireText (s : String) : Except ReadError Request := readWhole (readRecord format) s

end Request

end Redline
