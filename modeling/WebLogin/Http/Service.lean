/-
The login service.

Four routes serve a started login command: logging in and out, asking whether a role is held, and
asking who is logged in. A request gets a scope of the command, one operation runs in it, and the
cookies that the context collected go out with the response, also when the operation failed. A
request whose body is rejected or that gets no scope changes no cookie.
-/
import WebLogin.Http.ApiError
import WebLogin.Http.Body
import WebLogin.Http.Jar
import WebLogin.Http.Origins
import WebLogin.Login.Command

namespace WebLogin

namespace Http

/-- What a client can ask for. -/
inductive Route where
  /-- To log in. -/
  | login
  /-- To log out. -/
  | logout
  /-- Whether it holds one of some roles. -/
  | authorize
  /-- Who is logged in. -/
  | principal
  deriving DecidableEq, Repr

namespace Route

/-- The path of a route. -/
def path : Route → String
  | login => "/login"
  | logout => "/logout"
  | authorize => "/authorize"
  | principal => "/principal"

/-- The route of a path. -/
def ofPath? (path : String) : Option Route :=
  [login, logout, authorize, principal].find? (·.path == path)

/-- The methods of a route. -/
def methods : Route → List Method
  | principal => [.get, .head]
  | _ => [.post]

/-- The header with the methods of a route. -/
def allowHeader : Route → Header
  | principal => ("allow", "GET,HEAD")
  | _ => ("allow", "POST")

end Route

/-- A login service. -/
structure LoginService (m : Type → Type) where
  /-- The command that is served. -/
  command : LoginCommand m
  /-- The name of the cookie that names the session. -/
  cookieName : String
  /-- The origins whose pages may use the service, if other origins are of any interest. -/
  origins : Option AllowedOrigins
  /-- The clock that cookies are dated by. -/
  clock : m Timestamp

namespace LoginService

variable {m : Type → Type} [Monad m]

/-- Runs an operation in the scope of a request and sends the cookies with its response. -/
def inScope (s : LoginService m) (r : Request)
    (operation : RequestContext → m (RequestContext × Response)) : m Response := do
  let jar := CookieJar.ofHeaders r.headers
  match ← s.command.scope (jar.requestContext s.cookieName) with
  | (_, .error e) => return (ApiError.ofScopeError e).response
  | (ctx, .ok ()) => do
    let (ctx, response) ← operation ctx
    let (jar, _) := jar.writeContext s.cookieName (← s.clock) (jar.presented s.cookieName)
      (LoginCommand.finish ctx)
    return response.withHeaders jar.headers

/-- Logs in. -/
def login (s : LoginService m) (r : Request) : m Response :=
  match readBody LoginForm.reader r with
  | .error f => return f.response
  | .ok form => s.inScope r fun ctx => do
    let (ctx, result) ← s.command.login ctx form.username form.password
    return (ctx, match result with
      | .ok p => .json 200 p.toJson
      | .error e => (ApiError.ofLoginError e).response)

/-- Logs out. -/
def logout (s : LoginService m) (r : Request) : m Response :=
  s.inScope r fun ctx => do
    let (ctx, result) ← s.command.logout ctx none
    return (ctx, match result with
      | .ok () => .json 200 (Json.printObject [("logged_out", "true")])
      | .error e => (ApiError.ofLogoutError e).response)

/-- Answers whether one of some roles is held. -/
def authorize (s : LoginService m) (r : Request) : m Response :=
  match readBody RolesForm.reader r with
  | .error f => return f.response
  | .ok form => s.inScope r fun ctx =>
    let authorized := s.command.authorizes ctx.principal form.roles
    return (ctx, .json 200 (Json.printObject [("authorized", toString authorized)]))

/-- Answers who is logged in. -/
def principal (s : LoginService m) (r : Request) : m Response :=
  s.inScope r fun ctx =>
    return (ctx, match ctx.principal with
      | some p => .json 200 p.toJson
      | none => ApiError.notAuthenticated.response)

/-- Runs what is behind a route. -/
def run (s : LoginService m) : Route → Request → m Response
  | .login => s.login
  | .logout => s.logout
  | .authorize => s.authorize
  | .principal => s.principal

/-- Answers a request by its path and method; the body is left out if only the head is wanted. -/
def dispatch (s : LoginService m) (r : Request) : m Response := do
  match Route.ofPath? r.path with
  | none => return { status := 404 }
  | some route =>
    if route.methods.contains r.method then
      let response ← s.run route r
      return if r.method = .head then { response with body := "" } else response
    else return { status := 405, headers := [route.allowHeader] }

/-- Tells a browser what a page of another origin may do. -/
def preflight (r : Request) : Response :=
  { status := 200
    headers := AllowedOrigins.methodsHeader ::
      ((Route.ofPath? r.path).map Route.allowHeader).toList }

/-- Answers a request. -/
def serve (s : LoginService m) (r : Request) : m Response :=
  match s.origins with
  | none => s.dispatch r
  | some allowed => do
    let response ← if r.method = .options then pure (preflight r) else s.dispatch r
    return response.withHeaders (allowed.originHeaders r)

end LoginService

end Http

end WebLogin
