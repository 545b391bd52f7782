/-
Pages of other origins.

A browser asks, in headers, whether a page of another origin may see a response that was sent with
the credentials of the user. It may if its origin is on a list, letter for letter.
-/
import WebLogin.Http.Message

namespace WebLogin

namespace Http

/-- The origins whose pages may use the service. -/
structure AllowedOrigins where
  /-- The origins. -/
  origins : List String
  /-- Each origin can be the value of a header. -/
  isHeaderValue_origins : origins.all isHeaderValue
  deriving DecidableEq

/-- The error of an origin that cannot be the value of a header. -/
structure InvalidOrigin where
  deriving DecidableEq, Repr

namespace InvalidOrigin

/-- The text that reports the error. -/
def message (_ : InvalidOrigin) : String := "failed to parse header value"

end InvalidOrigin

namespace AllowedOrigins

/-- The origins of a list; none at all if it is empty. -/
def parse (origins : List String) : Except InvalidOrigin (Option AllowedOrigins) :=
  if origins.isEmpty then .ok none
  else if h : origins.all isHeaderValue then .ok (some ⟨origins, h⟩)
  else .error {}

/-- Whether pages of an origin may use the service. -/
def contains (a : AllowedOrigins) (origin : String) : Bool := a.origins.contains origin

/-- The headers about credentials and origin. -/
def originHeaders (a : AllowedOrigins) (r : Request) : List Header :=
  ("access-control-allow-credentials", "true") ::
    ("vary", "origin, access-control-request-method, access-control-request-headers") ::
    match header? "origin" r.headers with
    | some origin => if a.contains origin then [("access-control-allow-origin", origin)] else []
    | none => []

/-- The header with the methods that pages may use. -/
def methodsHeader : Header := ("access-control-allow-methods", "GET,POST")

end AllowedOrigins

end Http

end WebLogin
