import Redline.Text.Split

/-!
# Endpoints

The service that answers requests is configured by its base address or by the address of its route
`/propose`. Either spelling becomes the address of the route: slashes at the end are dropped and the
route is added unless it is there.
-/

namespace Redline.Http

open Redline.Text

/-- The address used when none is configured. -/
def defaultAddress : List Char := "http://127.0.0.1:8765".toList

/-- The route of the service. -/
def route : List Char := ['/', 'p', 'r', 'o', 'p', 'o', 's', 'e']

/-- The characters without the slashes at their end. -/
def dropSlashes (cs : List Char) : List Char := (cs.reverse.dropWhile (· == '/')).reverse

/-- The address of the route for a configured address. -/
def endpointChars (cs : List Char) : List Char :=
  let address := trimChars cs
  let base := dropSlashes (if address.isEmpty then defaultAddress else address)
  if endsWith route base then base else base ++ route

/-- The address of the route for a configured address. -/
def normalizeEndpoint (s : String) : String := String.ofList (endpointChars s.toList)

end Redline.Http
