import Redline.Http.Url.Host
import Redline.Http.Url.Path

/-!
# Addresses

After its scheme, an address has a host with a path below it, or a path alone. The schemes of the
web always have a host, and any number of slashes may stand before it; a port that is the usual one
of the scheme is dropped. A file may do without a host.

Reading gives an address in parts that are written in one way only. All parts are kept as they are
written, with their escapes.
-/

namespace Redline.Http

open Redline.Text

/-- An address. -/
structure Url where
  /-- The scheme. -/
  scheme : Scheme
  /-- The name of the user; empty if none is given. -/
  user : List Char := []
  /-- The password of the user. -/
  password : Option (List Char) := none
  /-- The host. -/
  host : Option (List Char) := none
  /-- The port unless it is the usual one. -/
  port : Option Nat := none
  /-- The path. -/
  path : List Char
  /-- The query after the question mark. -/
  query : Option (List Char) := none
  /-- The fragment after the number sign. -/
  fragment : Option (List Char) := none
deriving DecidableEq, Repr

namespace Url

/-! ## Writing -/

/-- A part of an address after its mark, if there is one. -/
def marked (mark : Char) : Option (List Char) → List Char
  | none => []
  | some cs => mark :: cs

/-- The part of an address before its host. -/
def userText (url : Url) : List Char :=
  if url.user.isEmpty && url.password.isNone then []
  else url.user ++ marked ':' url.password ++ ['@']

/-- The part of an address before its path: the user, the host and the port. -/
def authority (url : Url) : List Char :=
  match url.host with
  | none => []
  | some host => ['/', '/'] ++ url.userText ++ host ++ marked ':' (url.port.map (Nat.toDigits 10))

/-- What stands before a path that would be taken for a host. -/
def pathGuard (url : Url) : List Char :=
  if url.host.isNone && startsWith ['/', '/'] url.path then ['/', '.'] else []

/-- An address as it is written. -/
def text (url : Url) : String :=
  url.scheme.name ++ ":" ++ String.ofList (url.authority ++ url.pathGuard ++ url.path ++
    marked '?' url.query ++ marked '#' url.fragment)

/-! ## Queries and fragments -/

/-- A character that is escaped in a query. -/
def isUnsafeInQuery (scheme : Scheme) (c : Char) : Bool :=
  " \"#<>".toList.contains c || (scheme.isGenerous && c == '\'')

/-- The characters before a mark, and those after it if it is there. -/
def cutMark (mark : Char) (cs : List Char) : List Char × Option (List Char) :=
  match cutFirst? (· == mark) cs with
  | some (before, after) => (before, some after)
  | none => (cs, none)

/-- The characters of a path, and the query and the fragment after it as they are written. -/
def cutPath (scheme : Scheme) (cs : List Char) :
    List Char × Option (List Char) × Option (List Char) :=
  let (cs, fragment) := cutMark '#' cs
  let (cs, query) := cutMark '?' cs
  (cs, query.map (percentEncode (isUnsafeInQuery scheme)),
    fragment.map (percentEncode Path.isUnsafeInFragment))

/-! ## Authorities -/

/-- A character that is escaped in the name and the password of a user. -/
def isUnsafeInUser (c : Char) : Bool := Path.isUnsafe c || "/:;=@[\\]^|".toList.contains c

/-- The name and the password before the last `@` of an authority, and the characters after it. The
answer is `none` if the authority consists of an `@` alone. -/
def cutUser? (scheme : Scheme) (cs : List Char) :
    Option (List Char × Option (List Char) × List Char) :=
  let authority := cs.takeWhile fun c ↦ !scheme.endsAuthority c
  let rest := cs.dropWhile fun c ↦ !scheme.endsAuthority c
  match cutLast? (· == '@') authority with
  | none => some ([], none, cs)
  | some (user, host) =>
    if user.isEmpty && host.isEmpty && !rest.isEmpty then none
    else
      let (name, password) := cutMark ':' user
      some (percentEncode isUnsafeInUser name,
        (password.filter (!·.isEmpty)).map (percentEncode isUnsafeInUser), host ++ rest)

/-- The host and the characters after it. A colon between brackets belongs to the host. -/
def cutHost (scheme : Scheme) (inBrackets : Bool) : List Char → List Char × List Char
  | [] => ([], [])
  | c :: cs =>
    if (c == ':' && !inBrackets) || scheme.endsAuthority c then ([], c :: cs)
    else
      let (host, rest) := cutHost scheme (c == '[' || (inBrackets && c != ']')) cs
      (c :: host, rest)

/-- A character that may follow a port. -/
def followsPort (c : Char) : Bool := "/\\?#".toList.contains c

/-- The port after a host unless it is the usual one, and the characters after it. -/
def cutPort? (scheme : Scheme) (cs : List Char) : Option (Option Nat × List Char) :=
  match cs with
  | ':' :: cs =>
    let digits := cs.takeWhile Char.isDigit
    let rest := cs.dropWhile Char.isDigit
    if !rest.head?.all followsPort then none
    else if digits.isEmpty then some (none, rest)
    else do
      let n ← numberOf? 10 digits
      if 65536 ≤ n then none
      else some (if scheme.usualPort = some n then none else some n, rest)
  | _ => some (none, cs)

/-- Reads an address from its authority on. -/
def ofAuthority? (scheme : Scheme) (cs : List Char) : Option Url := do
  let (user, password, cs) ← cutUser? scheme cs
  let (host, cs) := cutHost scheme false cs
  let needsHost := !user.isEmpty || password.isSome || cs.head? == some ':'
  if host.isEmpty && needsHost then none
  else
    let host ← if scheme.isWeb then webHost? host else otherHost? host
    let (port, cs) ← cutPort? scheme cs
    let (cs, query, fragment) := cutPath scheme cs
    some { scheme, user, password, host := some host, port, path := Path.afterHost scheme cs,
           query, fragment }

/-! ## Files -/

/-- The address of a file on a host, with the path that the characters after the first slash denote.
A path that begins with a drive letter has no host. -/
def ofFilePath (scheme : Scheme) (host cs : List Char) : Url :=
  let (cs, query, fragment) := cutPath scheme cs
  let (path, hasDrive) := Path.ofFile scheme cs
  { scheme, host := some (if hasDrive then [] else host), path, query, fragment }

/-- Reads the address of a file after its scheme. -/
def ofFile? (scheme : Scheme) (cs : List Char) : Option Url := do
  let below := Path.dropSlash scheme cs
  let rest := Path.dropSlash scheme below
  if cs.length < rest.length + 2 then some (ofFilePath scheme [] below)
  else
    let host := rest.takeWhile fun c ↦ !scheme.endsAuthority c
    let path := rest.dropWhile fun c ↦ !scheme.endsAuthority c
    if Path.isDrive host then some (ofFilePath scheme [] rest)
    else if host.isEmpty then some (ofFilePath scheme [] path)
    else
      let host ← webHost? host
      if host = "localhost".toList then some (ofFilePath scheme [] path)
      else some (ofFilePath scheme host (Path.dropSlash scheme path))

/-! ## Reading -/

/-- A character that does not count at the ends of an address. -/
def isPadding (c : Char) : Bool := c.toNat ≤ 0x20

/-- The characters of an address that count: no padding around it, and no tabs and line ends. -/
def significant (cs : List Char) : List Char :=
  ((cs.dropWhile isPadding).reverse.dropWhile isPadding).reverse.filter
    fun c ↦ c != '\t' && c != '\n' && c != '\r'

/-- The address without a host that characters after a scheme denote. A path that does not begin
with a slash has no segments. -/
def ofPath (scheme : Scheme) (cs : List Char) : Url :=
  let (cs, query, fragment) := cutPath scheme cs
  let path := match cs with
    | '/' :: rest => Path.ofChars scheme rest
    | _ => percentEncode (fun _ ↦ false) cs
  { scheme, path, query, fragment }

/-- The address that characters denote. -/
def ofChars? (cs : List Char) : Option Url := do
  let (scheme, rest) ← Scheme.cut? (significant cs)
  if scheme.isFile then ofFile? scheme rest
  else if scheme.isWeb then ofAuthority? scheme (rest.dropWhile scheme.isSlash)
  else match rest with
    | '/' :: '/' :: rest => ofAuthority? scheme rest
    | _ => some (ofPath scheme rest)

def ofText? (s : String) : Option Url := ofChars? s.toList

/-! ## Parts -/

def hasHost (url : Url) : Bool := url.host.any fun host ↦ !host.isEmpty

def withoutUser (url : Url) : Url := { url with user := [], password := none }

/-- The bytes that escapes stand for, if they encode a text. -/
def textBytes? (cs : List Char) : Option (List UInt8) :=
  (some (percentDecode cs)).filter fun bytes ↦ (decodeStrict? bytes).isSome

/-- The name and the password of the user. A password that is no text does not count; if the name is
none, or there is nothing else, there is no user. -/
def credentials? (url : Url) : Option (List UInt8 × List UInt8) := do
  let name ← textBytes? url.user
  let password := url.password.bind textBytes?
  if name.isEmpty && password.isNone then none else some (name, password.getD [])

end Url

end Redline.Http
