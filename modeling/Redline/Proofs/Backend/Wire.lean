import Redline.Backend.Request
import Redline.Proofs.Json.Written

/-!
# Requests on the wire

A request is written as an object with a field for each of its parts, and a file likewise. The text
can be read in two ways: as a request, which must be the one that was written, and as any JSON
value, by a program that knows nothing of requests. Both are settled by following the readers over
the written text.
-/

namespace Redline

open Redline.Json

variable {file : FileSnapshot} {r : Request}

/-- The names of the fields of an object, in their order. -/
def Json.keys : Json → List String
  | .object fields => fields.map Prod.fst
  | _ => []

/-! ## What a value says of a request -/

/-- A value is an object that says what a file is, and nothing else. -/
structure FileSnapshot.DescribedBy (file : FileSnapshot) (value : Json) : Prop where
  keys : value.keys.Perm ["path", "content"]
  path : value.field? "path" = some (.string file.path)
  content : value.field? "content" = some (.string file.content)

/-- A value is an object that says what a request is, and nothing else. -/
structure Request.DescribedBy (r : Request) (value : Json) : Prop where
  keys : value.keys.Perm ["promptText", "activeFile", "contextFiles", "model"]
  prompt : value.field? "promptText" = some (.string r.prompt)
  active : ∃ file, value.field? "activeFile" = some file ∧ r.active.DescribedBy file
  context : ∃ files, value.field? "contextFiles" = some (.array files) ∧
    List.Forall₂ FileSnapshot.DescribedBy r.context files
  model : value.field? "model" = some (.string r.model)

/-! ## Files -/

namespace FileSnapshot

theorem describedBy_toJson (file : FileSnapshot) : file.DescribedBy file.toJson where
  keys := .refl _
  path := rfl
  content := rfl

theorem fills (file : FileSnapshot) :
    Fills format [("path", .string file.path), ("content", .string file.content)] format.empty
      ⟨some file.path, some file.content⟩ := by
  refine .cons rfl rfl ((readsBack_readString file.path).map fun x ↦
    PartialFile.mk (some x) none) ?_
  refine .cons rfl rfl ((readsBack_readString file.content).map fun x ↦
    PartialFile.mk (some file.path) (some x)) ?_
  exact .nil

theorem readsBack (file : FileSnapshot) : ReadsBack (readRecord format) file.toJson file :=
  readsBack_readRecord file.fills rfl

/-- What an untyped reader makes of the text of a file: the same fields, in ascending order. -/
def sortedJson (file : FileSnapshot) : Json :=
  .object [("content", .string file.content), ("path", .string file.path)]

theorem readsBack_sortedJson (room : Nat) (file : FileSnapshot) :
    ReadsBack (readValue (room + 1)) file.toJson file.sortedJson := by
  have hfields : List.Forall₂ (FieldReadsBack (readValue room))
      [("path", .string file.path), ("content", .string file.content)]
      [("path", .string file.path), ("content", .string file.content)] :=
    .cons ⟨rfl, readsBack_string room file.path⟩ <|
      .cons ⟨rfl, readsBack_string room file.content⟩ .nil
  have horder : "content" < "path" := by decide
  simpa [toJson, sortedJson, insertField, horder] using readsBack_object hfields

theorem describedBy_sortedJson (file : FileSnapshot) : file.DescribedBy file.sortedJson where
  keys := .swap ..
  path := rfl
  content := rfl

end FileSnapshot

/-! ## Requests -/

namespace Request

theorem fills (r : Request) :
    Fills format [("promptText", .string r.prompt), ("activeFile", r.active.toJson),
        ("contextFiles", .array (r.context.map FileSnapshot.toJson)), ("model", .string r.model)]
      format.empty ⟨some r.prompt, some r.active, some r.context, some r.model⟩ := by
  have hcontext : List.Forall₂ (ReadsBack (readRecord FileSnapshot.format))
      (r.context.map FileSnapshot.toJson) r.context :=
    List.forall₂_map_left_iff.mpr <| List.forall₂_same.mpr fun file _ ↦ file.readsBack
  refine .cons rfl rfl ((readsBack_readString r.prompt).map fun x ↦
    PartialRequest.mk (some x) none none none) ?_
  refine .cons rfl rfl (r.active.readsBack.map fun x ↦
    PartialRequest.mk (some r.prompt) (some x) none none) ?_
  refine .cons rfl rfl ((readsBack_readList hcontext).map fun x ↦
    PartialRequest.mk (some r.prompt) (some r.active) (some x) none) ?_
  refine .cons rfl rfl ((readsBack_readString r.model).map fun x ↦
    PartialRequest.mk (some r.prompt) (some r.active) (some r.context) (some x)) ?_
  exact .nil

theorem readsBack (r : Request) : ReadsBack (readRecord format) r.toJson r :=
  readsBack_readRecord r.fills rfl

def sortedJson (r : Request) : Json :=
  .object [("activeFile", r.active.sortedJson),
    ("contextFiles", .array (r.context.map FileSnapshot.sortedJson)), ("model", .string r.model),
    ("promptText", .string r.prompt)]

/-- Three arrays and objects are open around the text of a context file. -/
theorem readsBack_sortedJson (room : Nat) (r : Request) :
    ReadsBack (readValue (room + 3)) r.toJson r.sortedJson := by
  have hcontext : List.Forall₂ (ReadsBack (readValue (room + 1)))
      (r.context.map FileSnapshot.toJson) (r.context.map FileSnapshot.sortedJson) :=
    List.forall₂_map_left_iff.mpr <| List.forall₂_map_right_iff.mpr <|
      List.forall₂_same.mpr fun file _ ↦ file.readsBack_sortedJson room
  have hfields : List.Forall₂ (FieldReadsBack (readValue (room + 2)))
      [("promptText", .string r.prompt), ("activeFile", r.active.toJson),
        ("contextFiles", .array (r.context.map FileSnapshot.toJson)), ("model", .string r.model)]
      [("promptText", .string r.prompt), ("activeFile", r.active.sortedJson),
        ("contextFiles", .array (r.context.map FileSnapshot.sortedJson)),
        ("model", .string r.model)] :=
    .cons ⟨rfl, readsBack_string _ r.prompt⟩ <|
      .cons ⟨rfl, r.active.readsBack_sortedJson _⟩ <| .cons ⟨rfl, readsBack_array hcontext⟩ <|
      .cons ⟨rfl, readsBack_string _ r.model⟩ .nil
  have hfirst : "activeFile" < "promptText" := by decide
  have hsecond : "contextFiles" < "promptText" ∧ ¬"contextFiles" < "activeFile" := by decide
  have hthird : "model" < "promptText" ∧ ¬"model" < "activeFile" ∧ ¬"model" < "contextFiles" := by
    decide
  simpa [toJson, sortedJson, insertField, hfirst, hsecond, hthird] using readsBack_object hfields

theorem describedBy_of_fields {value : Json} {read : FileSnapshot → Json}
    (hread : ∀ file : FileSnapshot, file.DescribedBy (read file))
    (hkeys : value.keys.Perm ["promptText", "activeFile", "contextFiles", "model"])
    (hprompt : value.field? "promptText" = some (.string r.prompt))
    (hactive : value.field? "activeFile" = some (read r.active))
    (hcontext : value.field? "contextFiles" = some (.array (r.context.map read)))
    (hmodel : value.field? "model" = some (.string r.model)) : r.DescribedBy value where
  keys := hkeys
  prompt := hprompt
  active := ⟨_, hactive, hread r.active⟩
  context := ⟨_, hcontext,
    List.forall₂_map_right_iff.mpr <| List.forall₂_same.mpr fun file _ ↦ hread file⟩
  model := hmodel

theorem describedBy_toJson (r : Request) : r.DescribedBy r.toJson :=
  describedBy_of_fields FileSnapshot.describedBy_toJson (.refl _) rfl rfl rfl rfl

theorem keys_sortedJson (r : Request) :
    r.sortedJson.keys.Perm ["promptText", "activeFile", "contextFiles", "model"] := by
  have hkeys : ["activeFile", "contextFiles", "model", "promptText"].Perm
      ["promptText", "activeFile", "contextFiles", "model"] := by decide
  exact hkeys

theorem describedBy_sortedJson (r : Request) : r.DescribedBy r.sortedJson :=
  describedBy_of_fields FileSnapshot.describedBy_sortedJson r.keys_sortedJson rfl rfl rfl rfl

/-- **A request is read back from the wire.** Whatever its texts are and however many files it
carries, its text denotes the request itself, and to a reader that knows nothing of requests an
object that says what the request is and has no other field, in the request as in each of its files.
So no two requests share a text. -/
theorem wireText_roundTrip (r : Request) :
    ofWireText r.wireText = .ok r ∧
      r.DescribedBy r.toJson ∧
      (∃ value, Json.parse r.wireText = .ok value ∧ r.DescribedBy value) ∧
      ∀ other : Request, other.wireText = r.wireText → other = r := by
  have hback : ∀ r : Request, ofWireText r.wireText = .ok r := fun r ↦
    r.readsBack.readWhole_render
  refine ⟨hback r, r.describedBy_toJson, ?_, fun other htext ↦ ?_⟩
  · exact ⟨r.sortedJson, (r.readsBack_sortedJson 124).readWhole_render, r.describedBy_sortedJson⟩
  · have hother := hback other
    rw [htext, hback r] at hother
    exact (Except.ok.inj hother).symm

end Request

end Redline
