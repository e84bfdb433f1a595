import Redline.Backend.Basic

/-!
# The scripted backend

A backend for local work that needs no service: it gives prepared answers in order, and when none is
left it answers with an explanation that repeats the prompt. It keeps the requests it received.
-/

namespace Redline

/-- The state of a scripted backend. -/
structure ScriptedBackend where
  /-- The answers still to give, in order. -/
  script : List Answer
  /-- The requests received, in order. -/
  received : List Request
  /-- The models it offers. -/
  models : List String
deriving Inhabited

namespace ScriptedBackend

/-- The name of the scripted backend. -/
def backendId : String := "mock"

/-- A scripted backend with the given answers and models. -/
def withModels (script : List Answer) (models : List String) : ScriptedBackend :=
  ⟨script, [], cleanModels "mock" models⟩

def ofScript (script : List Answer) : ScriptedBackend := withModels script ["mock", "mock-alt"]

def profile (b : ScriptedBackend) : BackendProfile := .ofModels backendId "mock" b.models

/-- The explanation given when no answer is left. -/
def echo (prompt : String) : Json :=
  .object [("content", .string ("No scripted reply left. You asked: " ++ prompt)),
    ("type", .string "explanation")]

/-- Answers a request. A backend that breaks down does not keep the request. -/
def send (request : Request) (b : ScriptedBackend) : Answer × ScriptedBackend :=
  let received := b.received ++ [request]
  match b.script with
  | [] => (.reply (echo request.prompt), { b with received := received })
  | .breakdown :: rest => (.breakdown, { b with script := rest })
  | answer :: rest => (answer, { b with script := rest, received := received })

/-- Prepares one more answer. -/
def push (b : ScriptedBackend) (answer : Answer) : ScriptedBackend :=
  { b with script := b.script ++ [answer] }

def backend : Backend ScriptedBackend := ⟨profile, send⟩

end ScriptedBackend

end Redline
