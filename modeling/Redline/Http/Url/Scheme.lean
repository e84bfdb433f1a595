import Redline.Text.Split

/-!
# Schemes

An address begins with its scheme. The schemes of the web and that of files are read generously: a
backslash counts as a slash. The schemes of the web also have a usual port each.
-/

namespace Redline.Http

open Redline.Text

structure Scheme where
  /-- Its name in lower case. -/
  name : String
deriving DecidableEq, Repr

namespace Scheme

/-- The schemes of the web and their usual ports. -/
def webPorts : List (String × Nat) :=
  [("http", 80), ("https", 443), ("ws", 80), ("wss", 443), ("ftp", 21)]

/-- The port of a scheme that need not be written. -/
def usualPort (scheme : Scheme) : Option Nat := webPorts.lookup scheme.name

def isWeb (scheme : Scheme) : Bool := scheme.usualPort.isSome

def isFile (scheme : Scheme) : Bool := scheme.name == "file"

/-- Whether a backslash counts as a slash. -/
def isGenerous (scheme : Scheme) : Bool := scheme.isWeb || scheme.isFile

/-- A character that separates segments. -/
def isSlash (scheme : Scheme) (c : Char) : Bool := c == '/' || (scheme.isGenerous && c == '\\')

/-- A character that ends an authority. -/
def endsAuthority (scheme : Scheme) (c : Char) : Bool := scheme.isSlash c || c == '?' || c == '#'

def isNameChar (c : Char) : Bool := c.isAlphanum || c == '+' || c == '-' || c == '.'

/-- The scheme of an address and the characters after its colon. -/
def cut? (cs : List Char) : Option (Scheme × List Char) := do
  let (name, rest) ← cutFirst? (· == ':') cs
  if name.head?.any Char.isAlpha && name.all isNameChar then
    some (⟨String.ofList (name.map asciiLower)⟩, rest)
  else none

end Scheme

end Redline.Http
