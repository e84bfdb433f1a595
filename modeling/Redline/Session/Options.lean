import Redline.Text.Split

/-!
# Session options

A session is started with a model, a hint to show while a request is under way, and the extensions
of the files that may be active. An extension is configured with or without its dot and in any case;
an empty list admits every file.
-/

namespace Redline

open Redline.Text

/-- How a session is set up. -/
structure SessionOptions where
  /-- What is shown while a request is under way. -/
  loadingHint : String := "Thinking..."
  /-- The extensions of files that may be active, in lower case and without the dot. -/
  extensions : List String := []
  /-- The model to use. -/
  model : String := "default"
deriving DecidableEq, Repr

/-- A configured extension without white space and dots before it, in lower case. -/
def cleanExtension (s : String) : String :=
  String.ofList (((trimChars s.toList).dropWhile (· == '.')).map asciiLower)

/-- The part of a path after its last slash or backslash. -/
def fileNameOf (path : List Char) : List Char :=
  match cutLast? (fun c ↦ c == '/' || c == '\\') path with
  | some (_, name) => name
  | none => path

/-- The extension of a path in lower case: what follows the last dot of its file name, if anything
precedes that dot. -/
def extensionOf? (path : String) : Option String :=
  match cutLast? (· == '.') (fileNameOf path.toList) with
  | some (stem, extension) =>
    if stem.isEmpty then none else some (String.ofList (extension.map asciiLower))
  | none => none

namespace SessionOptions

def withModel (o : SessionOptions) (model : String) : SessionOptions := { o with model := model }

/-- The options with other extensions; those of which nothing is left when cleaned are dropped. -/
def withExtensions (o : SessionOptions) (extensions : List String) : SessionOptions :=
  { o with extensions := (extensions.map cleanExtension).filter fun e ↦ !e.isEmpty }

def withLoadingHint (o : SessionOptions) (hint : String) : SessionOptions :=
  { o with loadingHint := hint }

/-- Whether a file may be active. -/
def accepts (o : SessionOptions) (path : String) : Bool :=
  o.extensions.isEmpty || match extensionOf? path with
    | some extension => o.extensions.contains extension
    | none => false

end SessionOptions

end Redline
