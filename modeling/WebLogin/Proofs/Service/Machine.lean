/-
The login service as a simple machine.

`LoginMachine` keeps, for each browser, only who is logged in and until when. `Browsers.run` is the
service itself, used by browsers with cookie jars over a store in memory. Both are driven by the
same events: calls of browsers, in any order, and time that passes.
-/
import WebLogin.Deployment
import WebLogin.Json.Value
import WebLogin.Proofs.Http.Browser
import WebLogin.Proofs.Login.Protocol
import WebLogin.Proofs.Store.World

namespace WebLogin

namespace Http

/-! ### Calls -/

/-- What can be asked of the service. -/
inductive Action where
  | login (username password : String)
  | logout
  | authorize (roles : List Authority)
  | principal

/-- A well-formed request that asks for an action: it goes to the right route by the right method,
and its body can be read. -/
inductive Request.Asks (r : Request) : Action → Prop where
  | login {form : LoginForm} (method : r.method = .post) (path : r.path = Route.login.path)
      (body : readBody LoginForm.reader r = .ok form) :
      r.Asks (.login form.username form.password)
  | logout (method : r.method = .post) (path : r.path = Route.logout.path) : r.Asks .logout
  | authorize {form : RolesForm} (method : r.method = .post)
      (path : r.path = Route.authorize.path) (body : readBody RolesForm.reader r = .ok form) :
      r.Asks (.authorize form.roles)
  | principal (method : r.method = .get) (path : r.path = Route.principal.path) :
      r.Asks .principal

/-- A request with the action that it asks for. It has no cookies yet: they come from the browser
that sends it. -/
structure Call where
  request : Request
  action : Action
  asks : request.Asks action
  bare : headerValues "cookie" request.headers = []

/-- Something that happens: some time passes, or a browser makes a call. -/
inductive Event (ι : Type) where
  | wait (ms : Nat)
  | call (browser : ι) (c : Call)

/-- How much time passes. -/
def waited {ι : Type} : List (Event ι) → Nat
  | [] => 0
  | .wait ms :: events => ms + waited events
  | .call _ _ :: events => waited events

/-! ### Answers -/

/-- What a client learns from a response: its status, the type of its body, and the document that
its body is read as. -/
structure Reply where
  status : Nat
  contentTypes : List String
  document : Option Json.Value

/-- The document that the body of a response is read as, whatever has written it. -/
def Response.document? (r : Response) : Option Json.Value :=
  (Json.ofText Json.value r.body).toOption

def Response.reply (r : Response) : Reply :=
  ⟨r.status, headerValues "content-type" r.headers, r.document?⟩

namespace Reply

/-- An object with some fields. -/
def json (status : Nat) (fields : List (String × Json.Value)) : Reply :=
  ⟨status, ["application/json"], some (.object fields)⟩

/-- A client is not let in. It is told why, and maybe more. -/
def denied (text : String) (more : List (String × Json.Value)) : Reply :=
  json 401 ([("error", .string text), ("fault_code", .string "Client.Authentication")] ++ more)

/-- Something has gone wrong behind the scenes. -/
def broken (text : String) : Reply :=
  json 500 [("error", .string ("Unexpected error: " ++ text)),
    ("fault_code", .string "Server.Processing")]

end Reply

/-- What the service answers. -/
inductive Answer where
  | principal (p : Principal)
  | rejected (f : LoginFailure)
  | loggedOut
  | authorized (b : Bool)
  | nobody

/-- What a client learns from an answer. A verifier that has failed is no fault of the client; of
any other rejection it is told the reason. -/
def Answer.reply : Answer → Reply
  | principal p => .json 200 [("name", .string p.name),
      ("authorities", .list (p.authorities.toList.map .string))]
  | rejected ⟨.unknownIdentity, detail⟩ =>
    .denied ("Authentication failed (unknown identity): " ++ detail)
      [("reason", .string "unknown_identity")]
  | rejected ⟨.badCredential, detail⟩ =>
    .denied ("Authentication failed (bad credential): " ++ detail)
      [("reason", .string "bad_credential")]
  | rejected ⟨.disabled, detail⟩ =>
    .denied ("Authentication failed (account disabled): " ++ detail)
      [("reason", .string "disabled")]
  | rejected ⟨.other, detail⟩ => .broken ("Authentication failed (other): " ++ detail)
  | loggedOut => .json 200 [("logged_out", .bool true)]
  | authorized b => .json 200 [("authorized", .bool b)]
  | nobody => .denied "Not authenticated" []

/-! ### The machine -/

/-- What a verdict of a verifier means for a login: the reason and the words for a rejection are its
own, and so are the name and the authorities of the principal. -/
def judge : Except VerificationError VerifiedIdentity → Except LoginFailure Principal
  | .error e => .error ⟨e.reason, e.message⟩
  | .ok identity => .ok ⟨identity.name, identity.authorities⟩

/-- Who is logged in by a name and a password, according to a verifier. -/
def attempt {m : Type → Type} [Monad m] (v : Verifier m) (username password : String) :
    m (Except LoginFailure Principal) :=
  match Credential.parse username password with
  | .error e => return .error ⟨.unknownIdentity, e.message⟩
  | .ok credential => do return judge (← v.verify credential)

/-- Who is logged in with each browser, and until when. -/
structure LoginMachine (ι α : Type) where
  clock : Uptime
  logins : ι → Option (Principal × Uptime)
  /-- What the verifier works on. -/
  outside : α

namespace LoginMachine

variable {ι α : Type}

/-- The login of a browser, unless its time is over. -/
def login? (m : LoginMachine ι α) (b : ι) : Option (Principal × Uptime) :=
  (m.logins b).filter fun l => m.clock < l.2

/-- Who is logged in with a browser. -/
def current (m : LoginMachine ι α) (b : ι) : Option Principal := (m.login? b).map Prod.fst

variable [DecidableEq ι]

/-- The machine with another login of one browser. -/
def withLogin (m : LoginMachine ι α) (b : ι) (l : Option (Principal × Uptime)) :
    LoginMachine ι α :=
  { m with logins := Function.update m.logins b l }

theorem login?_withLogin (m : LoginMachine ι α) (b : ι) (l : Option (Principal × Uptime)) :
    (m.withLogin b l).login? b = l.filter fun l => m.clock < l.2 := by
  have hlogin : (m.withLogin b l).logins b = l := Function.update_self ..
  rw [login?, hlogin]
  rfl

/-- What the machine answers to a browser, and how it goes on. A login lasts for so many seconds. -/
def answer (v : Verifier (StateM α)) (ttl : Nat) (m : LoginMachine ι α) (b : ι) :
    Action → Answer × LoginMachine ι α
  | .login username password =>
    let (result, outside) := (attempt v username password).run m.outside
    let m := { m with outside }
    match result with
    | .ok p => (.principal p, m.withLogin b (some (p, m.clock + 1000 * ttl)))
    | .error f => (.rejected f, m)
  | .logout => (.loggedOut, m.withLogin b none)
  | .authorize roles =>
    (.authorized ((m.current b).any fun p => roles.any p.hasAuthority), m)
  | .principal => ((m.current b).elim .nobody .principal, m)

/-- The answers to all calls in order. -/
def run (v : Verifier (StateM α)) (ttl : Nat) (m : LoginMachine ι α) :
    List (Event ι) → List Answer
  | [] => []
  | .wait ms :: events => run v ttl { m with clock := m.clock + ms } events
  | .call b c :: events =>
    let (a, m) := m.answer v ttl b c.action
    a :: run v ttl m events

end LoginMachine

/-! ### The service and its browsers -/

namespace Browsers

variable {ι α : Type} [DecidableEq ι]

/-- The responses to all calls in order. Each browser sends its cookies along and keeps those that
it gets. -/
def run (svc : LoginService (World.Run α)) (browsers : ι → Browser) :
    List (Event ι) → World.Run α (List Response)
  | [] => return []
  | .wait ms :: events => do
    modifyThe (World α) fun w => { w with clock := w.clock + ms }
    run svc browsers events
  | .call b c :: events => do
    let response ← svc.serve ((browsers b).send c.request)
    let browsers := Function.update browsers b ((browsers b).update response)
    return response :: (← run svc browsers events)

end Browsers

end Http

/-! ### Starting over a store in memory -/

namespace World

variable {α : Type}

/-- Runs something that minds only what lies outside. -/
def elsewhere {β : Type} (x : StateM α β) : Run α β := fun w =>
  let (b, outside) := x w.outside
  .ok (b, { w with outside })

theorem elsewhere_yields {β : Type} (x : StateM α β) (w : World α) :
    Yields (elsewhere x) w (x.run w.outside).1 { w with outside := (x.run w.outside).2 } := rfl

/-- A verifier that minds only what lies outside. -/
def liftVerifier (v : Verifier (StateM α)) : Verifier (Run α) where
  verify c := elsewhere (v.verify c)

/-- What a service in memory draws on beside its sessions. -/
structure Surroundings (α : Type) where
  date : World α → Timestamp
  /-- A salt for one more password. -/
  salt : StateM α (List UInt8)
  redis : String → Nat → Run α (Except String (SessionStore (Run α)))
  database : String → StateM α (Except String (Verifier (StateM α)))

/-- Opens an empty store in memory. -/
def openStore (ids : Nat → SessionId) (ttl : Nat) : Run α (SessionStore (Run α)) := do
  modifyThe (World α) fun w => { w with store := { ttl } }
  return sessionStore ids

/-- All that a service in memory draws on. -/
def Surroundings.resources (around : Surroundings α) (ids : Nat → SessionId) :
    Resources (Run α) where
  clock := do return around.date (← getThe (World α))
  salt := elsewhere around.salt
  memoryStore := openStore ids
  redisStore := around.redis
  database url := do return (← elsewhere (around.database url)).map liftVerifier

end World

end WebLogin
