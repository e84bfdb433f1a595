import Redline.Http.Config
import Redline.Http.Url
import Redline.Text.Base64

/-!
# Exchanges over HTTP

A request is posted to the route of the service as JSON, with the configured key as bearer token. A
service that cannot be reached, or that answers with a passing error, is tried again a few times
with pauses that double; every other failure ends the exchange at once.

How a request travels is left to a *transport*, which may change its state with every try.
-/

namespace Redline.Http

/-! ## What is sent -/

/-- A request as it is posted. -/
structure Posting where
  /-- The address. -/
  url : Url
  /-- The value of the `Authorization` header. -/
  authorization : Option String
  /-- The body, which is JSON. -/
  body : String
deriving DecidableEq, Repr

namespace Posting

def method : String := "POST"

/-- The kind of content that is sent, and asked for. -/
def mediaType : String := "application/json"

end Posting

/-- Why there is no request to send. -/
inductive PostingError
  /-- The address is none, or the key may not stand in a header. -/
  | malformed
  /-- The address cannot be asked. -/
  | unusable (url : Url)
deriving DecidableEq, Repr

def PostingError.message : PostingError → String
  | .malformed => "builder error"
  | .unusable url => "builder error for url (" ++ url.text ++ ")"

/-- A character that may stand in a header. -/
def isHeaderChar (c : Char) : Bool := c == '\t' || (0x20 ≤ c.toNat && c.toNat != 0x7F)

/-- The value of the header that states a user's name and password. -/
def basicAuthorization (name password : List UInt8) : String :=
  "Basic " ++ String.ofList (Text.base64 (name ++ Text.encode ":" ++ password))

/-- The request to post for a request. A user in the address comes before the key and is not posted
with the address. -/
def HttpConfig.posting (config : HttpConfig) (request : Request) : Except PostingError Posting :=
  match Url.ofText? config.address with
  | none => .error .malformed
  | some url =>
    if !url.hasHost then .error (.unusable url)
    else if (config.apiKey.getD "").toList.all isHeaderChar then
      match url.credentials? with
      | some (name, password) =>
        .ok ⟨url.withoutUser, some (basicAuthorization name password), request.wireText⟩
      | none => .ok ⟨url, config.apiKey.map ("Bearer " ++ ·), request.wireText⟩
    else .error .malformed

/-! ## Transports -/

/-- What becomes of a posted request. -/
inductive Delivery
  /-- The service responds. -/
  | response (status : Nat) (body : String)
  /-- The service cannot be reached. -/
  | unreachable (message : String)
  /-- There is no response in time. -/
  | timedOut (message : String)
  /-- The exchange breaks off. -/
  | broken (message : String)
deriving DecidableEq, Repr

/-- A way for requests to travel, over states of type `τ`. -/
structure Transport (τ : Type) where
  /-- Posts a request. -/
  deliver : Posting → τ → Delivery × τ
  /-- Lets time pass. -/
  pause : Duration → τ → τ

def Transport.offline : Transport Unit where
  deliver posting s :=
    (.unreachable ("error sending request for url (" ++ posting.url.text ++ ")"), s)
  pause _ s := s

/-! ## Exchanges -/

section Exchange

variable {τ : Type} (T : Transport τ)

/-- The most bytes of an address that can be asked. -/
def maxAddress : Nat := 65534

/-- A character that keeps a host from being asked. -/
def isUnsafeInHost (c : Char) : Bool := "\"\x60\x7b\x7d".toList.contains c

/-- Whether an address can be asked over HTTP. -/
def Url.isAskable (url : Url) : Bool :=
  (url.scheme.name == "http" || url.scheme.name == "https") &&
    !(url.host.getD []).any isUnsafeInHost && url.text.utf8ByteSize ≤ maxAddress

/-- The reply in the body of a successful response. -/
def replyOf (body : String) : Except HttpError Json :=
  match Json.parse body with
  | .ok value => .ok value
  | .error e => .error (.invalidReply e.message (preview body))

/-- Posts a request and tries again up to `retries` times. -/
def attempt (config : HttpConfig) (posting : Posting) :
    (retries : Nat) → τ → Except HttpError Json × τ
  | retries, s =>
    let pauseLength := retryDelay config.retryDelay (maxRetries - retries)
    match T.deliver posting s with
    | (.response status body, s) =>
      if isSuccess status then (replyOf body, s)
      else
        let failure : HttpError := .status status (errorMessage status body)
        match retries with
        | 0 => (.error failure, s)
        | retries + 1 =>
          if isRetryable status body then attempt config posting retries (T.pause pauseLength s)
          else (.error failure, s)
    | (.unreachable m, s) =>
      match retries with
      | 0 => (.error (.unreachable config.address m), s)
      | retries + 1 => attempt config posting retries (T.pause pauseLength s)
    | (.timedOut m, s) => (.error (.timeout m), s)
    | (.broken m, s) => (.error (.client m), s)

/-- Sends a request and waits for the reply. -/
def HttpConfig.exchange (config : HttpConfig) (request : Request) (s : τ) :
    Except HttpError Json × τ :=
  match config.posting request with
  | .error e => (.error (.client e.message), s)
  | .ok posting =>
    if posting.url.isAskable then attempt T config posting maxRetries s
    else (.error (.client (PostingError.unusable posting.url).message), s)

/-- The backend with a configuration, over the states of a transport. -/
def HttpConfig.backend (config : HttpConfig) : Backend τ where
  profile _ := config.profile
  send request s :=
    match config.exchange T request s with
    | (.ok value, s) => (.reply value, s)
    | (.error e, s) => (.failure e.toBackendError, s)

end Exchange

end Redline.Http
