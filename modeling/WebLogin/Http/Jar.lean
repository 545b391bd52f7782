/-
The cookies of one exchange.

A jar starts with the cookies that the request brought and collects those that the response sets.
A cookie that is removed is forgotten if it was only to be set, while a browser is told to forget
one that it sent. The session of a request is named by one of the cookies, and the response sets
that cookie when the session is another one afterwards.
-/
import WebLogin.Context
import WebLogin.Http.Cookie

namespace WebLogin

namespace Http

/-- The cookies of one exchange. -/
structure CookieJar where
  /-- The cookies of the request, the later first. -/
  received : List (String × String) := []
  /-- The cookies that the response sets, at most one of a name. -/
  pending : List SetCookie := []
  deriving DecidableEq, Repr

namespace CookieJar

/-- The jar of a request with some headers. -/
def ofHeaders (headers : List Header) : CookieJar :=
  { received := ((headerValues "cookie" headers).flatMap cookiesOf).reverse }

/-- The value of a cookie of the request. -/
def received? (jar : CookieJar) (name : String) : Option String := jar.received.lookup name

/-- The jar without the cookie of a name that was to be set. -/
def discard (jar : CookieJar) (name : String) : CookieJar :=
  { jar with pending := jar.pending.filter fun c => c.name != name }

/-- The jar with one more cookie to set, in place of one of its name. -/
def add (jar : CookieJar) (c : SetCookie) : CookieJar :=
  { jar with pending := (jar.discard c.name).pending ++ [c] }

/-- The jar after a cookie was removed from it. -/
def remove (jar : CookieJar) (now : Timestamp) (name : String) : CookieJar :=
  if (jar.received? name).isSome then jar.add (.removal now name) else jar.discard name

/-- The text of a cookie before it is encoded. -/
def rawText (c : ResponseCookie) : String :=
  c.name ++ "=" ++ c.value ++ "; Path=/" ++ (if c.httpOnly then "; HttpOnly" else "") ++
    match c.maxAge with
    | some seconds => "; Max-Age=" ++ toString seconds
    | none => ""

/-- The jar after a response cookie was written to it. One whose name and value are no pair is
lost. -/
def write (now : Timestamp) (jar : CookieJar) (c : ResponseCookie) : CookieJar :=
  if c.isRemoval then jar.remove now c.name
  else
    match SetCookie.parse? (rawText c) with
    | some parsed => jar.add { parsed with sameSiteLax := true }
    | none => jar

/-- The headers that set the cookies; a cookie whose text is no header value is left out. -/
def headers (jar : CookieJar) : List Header :=
  ((jar.pending.map SetCookie.text).filter isHeaderValue).map ("set-cookie", ·)

/-! ### Contexts -/

/-- The session that the request names by a cookie, if the cookie writes an id. -/
def presented (jar : CookieJar) (cookieName : String) : Option SessionId :=
  (jar.received? cookieName).bind SessionId.parse?

/-- The context of a request. -/
def requestContext (jar : CookieJar) (cookieName : String) : RequestContext :=
  { sessionId := jar.presented cookieName, requestCookies := jar.received }

/-- The response cookie that tells a browser its session. -/
def sessionCookie (cookieName : String) : Option SessionId → ResponseCookie
  | some id => { name := cookieName, value := id.text }
  | none => .removal cookieName

/-- Writes the cookies of a context to the jar, and last the session cookie if the session is not
the one that was presented. No cookie is left in the context. -/
def writeContext (jar : CookieJar) (cookieName : String) (now : Timestamp)
    (presented : Option SessionId) (ctx : RequestContext) : CookieJar × RequestContext :=
  let (cookies, ctx) := ctx.takeResponseCookies
  let jar := cookies.foldl (write now) jar
  if ctx.sessionId = presented then (jar, ctx)
  else (jar.write now (sessionCookie cookieName ctx.sessionId), ctx)

end CookieJar

end Http

end WebLogin
