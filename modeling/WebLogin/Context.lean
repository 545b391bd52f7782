/-
The context of one request.

It carries what the request brought (session id, cookies), what the response must carry (cookies
to set or remove) and the principal bound to the request. A response cookie that is added later
replaces one of the same name.
-/
import WebLogin.Session.Data

namespace WebLogin

/-- A cookie that the response sets or removes. -/
structure ResponseCookie where
  /-- The name of the cookie. -/
  name : String
  /-- The value of the cookie. -/
  value : String
  /-- How many seconds the cookie is kept, if that is limited. -/
  maxAge : Option Int := none
  /-- Whether scripts of the page must not see the cookie. -/
  httpOnly : Bool := true
  deriving DecidableEq

namespace ResponseCookie

/-- The cookie that makes a browser forget a name. -/
def removal (name : String) : ResponseCookie :=
  { name, value := "", maxAge := some 0 }

/-- Whether the cookie makes a browser forget its name. -/
def isRemoval (c : ResponseCookie) : Bool := c.maxAge == some 0

end ResponseCookie

/-- What is known about a request while it is served. -/
structure RequestContext where
  /-- The session that the request belongs to. -/
  sessionId : Option SessionId := none
  /-- The cookies of the request, the later first. -/
  requestCookies : List (String × String) := []
  /-- The cookies for the response, in order. -/
  responseCookies : List ResponseCookie := []
  /-- The principal bound to the request. -/
  principal : Option Principal := none
  deriving DecidableEq

namespace RequestContext

/-- The context of a request that brings nothing. -/
def empty : RequestContext := {}

/-- The same request with one more cookie, which hides an earlier one of its name. -/
def withRequestCookie (ctx : RequestContext) (name value : String) : RequestContext :=
  { ctx with requestCookies := (name, value) :: ctx.requestCookies }

/-- The value of a request cookie. -/
def requestCookie? (ctx : RequestContext) (name : String) : Option String :=
  ctx.requestCookies.lookup name

/-- Whether a principal is bound. -/
def isAuthenticated (ctx : RequestContext) : Bool := ctx.principal.isSome

/-- The context with another session id, or with none. -/
def withSession (ctx : RequestContext) (id : Option SessionId) : RequestContext :=
  { ctx with sessionId := id }

/-- The context with a principal bound in place of any other. -/
def bindPrincipal (ctx : RequestContext) (p : Principal) : RequestContext :=
  { ctx with principal := some p }

/-- The context without a principal. -/
def unbindPrincipal (ctx : RequestContext) : RequestContext :=
  { ctx with principal := none }

/-- Queues a response cookie at the end and drops an earlier one of its name. -/
def addResponseCookie (ctx : RequestContext) (cookie : ResponseCookie) : RequestContext :=
  { ctx with
    responseCookies := ctx.responseCookies.filter (fun c => c.name != cookie.name) ++ [cookie] }

/-- The queued response cookie of a name. -/
def responseCookie? (ctx : RequestContext) (name : String) : Option ResponseCookie :=
  ctx.responseCookies.find? fun c => c.name == name

/-- The queued response cookies, and the context without them. -/
def takeResponseCookies (ctx : RequestContext) : List ResponseCookie × RequestContext :=
  (ctx.responseCookies, { ctx with responseCookies := [] })

end RequestContext

end WebLogin
