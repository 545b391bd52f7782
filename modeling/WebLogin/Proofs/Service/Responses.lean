/-
From a request to its response.

A well-formed call runs one operation in the scope of its request, and the response gives the
answer of that operation, together with cookies and with headers for pages of other origins.

* `LoginService.serve_eq` — which operation a call runs;
* `reply_principal`, `reply_rejected`, `reply_loggedOut`, `reply_authorized`, `reply_nobody` — what
  a client reads in the body of a response;
* `reply_response`, `update_response` — what it and its browser take from a whole response.
-/
import WebLogin.Proofs.Json.Values
import WebLogin.Proofs.Service.Machine

namespace WebLogin

namespace Http

/-! ### From requests to operations -/

namespace LoginService

/-- What the service does for an action once the request has its scope. -/
def operation {m : Type → Type} [Monad m] (s : LoginService m) :
    Action → RequestContext → m (RequestContext × Response)
  | .login username password => fun ctx => do
    let (ctx, result) ← s.command.login ctx username password
    return (ctx, match result with
      | .ok p => .json 200 p.toJson
      | .error e => (ApiError.ofLoginError e).response)
  | .logout => fun ctx => do
    let (ctx, result) ← s.command.logout ctx none
    return (ctx, match result with
      | .ok () => .json 200 (Json.printObject [("logged_out", "true")])
      | .error e => (ApiError.ofLogoutError e).response)
  | .authorize roles => fun ctx =>
    return (ctx, .json 200 (Json.printObject
      [("authorized", toString (s.command.authorizes ctx.principal roles))]))
  | .principal => fun ctx =>
    return (ctx, match ctx.principal with
      | some p => .json 200 p.toJson
      | none => ApiError.notAuthenticated.response)

/-- The headers that tell a browser what pages of other origins may do. -/
def corsHeaders {m : Type → Type} (s : LoginService m) (r : Request) : List Header :=
  match s.origins with
  | none => []
  | some allowed => allowed.originHeaders r

end LoginService

theorem headerValues_cookieHeaders {name : String} (h : ("cookie".toLower == name) = false)
    (b : Browser) : headerValues name b.cookieHeaders = [] := by
  cases b with
  | nil => rfl
  | cons c cs =>
    rw [headerValues, Browser.cookieHeaders, List.filter_cons_of_neg (by rw [h]; decide)]
    rfl

theorem readBody_send {β : Type} (reader : Json.Reader β) (b : Browser) (r : Request) :
    readBody reader (b.send r) = readBody reader r := by
  have hheader : header? "content-type" (b.send r).headers =
      header? "content-type" r.headers := by
    rw [header?, Browser.send, headerValues_append, headerValues_cookieHeaders (by decide +kernel),
      List.append_nil, header?]
  rw [readBody, readBody, hheader]
  rfl

/-- A well-formed request is still well-formed when a browser sends it. -/
theorem Request.Asks.send {r : Request} {a : Action} (h : r.Asks a) (b : Browser) :
    (b.send r).Asks a := by
  cases h with
  | login method path body => exact .login method path (by rw [readBody_send, body])
  | logout method path => exact .logout method path
  | authorize method path body => exact .authorize method path (by rw [readBody_send, body])
  | principal method path => exact .principal method path

namespace LoginService

variable {m : Type → Type} [Monad m] [LawfulMonad m]

theorem dispatch_of_route (s : LoginService m) {r : Request} {route : Route}
    (hroute : Route.ofPath? r.path = some route) (hmethod : route.methods.contains r.method = true)
    (hhead : r.method ≠ .head) : s.dispatch r = s.run route r := by
  rw [dispatch, hroute]
  dsimp only
  rw [if_pos hmethod]
  simp only [if_neg hhead, bind_pure]

theorem dispatch_eq (s : LoginService m) {r : Request} {a : Action} (h : r.Asks a) :
    s.dispatch r = s.inScope r (s.operation a) := by
  cases h with
  | login method path body =>
    rw [dispatch_of_route s (by rw [path]; decide : _ = some Route.login) (by rw [method]; decide)
      (by rw [method]; decide)]
    simp only [run, login, body]
    rfl
  | logout method path =>
    rw [dispatch_of_route s (by rw [path]; decide : _ = some Route.logout) (by rw [method]; decide)
      (by rw [method]; decide)]
    rfl
  | authorize method path body =>
    rw [dispatch_of_route s (by rw [path]; decide : _ = some Route.authorize)
      (by rw [method]; decide) (by rw [method]; decide)]
    simp only [run, authorize, body]
    rfl
  | principal method path =>
    rw [dispatch_of_route s (by rw [path]; decide : _ = some Route.principal)
      (by rw [method]; decide) (by rw [method]; decide)]
    rfl

theorem serve_eq (s : LoginService m) {r : Request} {a : Action} (h : r.Asks a) :
    s.serve r = do return (← s.inScope r (s.operation a)).withHeaders (s.corsHeaders r) := by
  have hmethod : r.method ≠ .options := by
    cases h <;> simp [*]
  rw [serve, corsHeaders, ← dispatch_eq s h]
  cases s.origins with
  | none => simp [Response.withHeaders]
  | some allowed => simp [hmethod]

end LoginService

/-! ### Responses -/

/-- The values of the headers that set cookies. -/
def Response.setCookies (r : Response) : List String := headerValues "set-cookie" r.headers

theorem Response.setCookies_withHeaders (r : Response) (headers : List Header) :
    (r.withHeaders headers).setCookies = r.setCookies ++ headerValues "set-cookie" headers :=
  headerValues_append ..

theorem Response.setCookies_json (status : Nat) (body : String) :
    (Response.json status body).setCookies = [] := by
  have hlower : ("content-type".toLower == "set-cookie") = false := by decide +kernel
  rw [setCookies, headerValues, json, List.filter_cons_of_neg (by rw [hlower]; decide)]
  rfl

theorem headerValues_jar (jar : CookieJar) : headerValues "content-type" jar.headers = [] := by
  have hname : ("set-cookie".toLower == "content-type") = false := by decide +kernel
  rw [headerValues, List.map_eq_nil_iff, List.filter_eq_nil_iff]
  intro h hh
  obtain ⟨line, -, rfl⟩ := List.mem_map.1 hh
  rw [hname]
  decide

theorem headerValues_corsHeaders {m : Type → Type} (s : LoginService m) (r : Request)
    {name : String} (h : name = "content-type" ∨ name = "set-cookie") :
    headerValues name (s.corsHeaders r) = [] := by
  have hnames : ∀ header ∈ ["access-control-allow-credentials", "vary",
      "access-control-allow-origin"], (header.toLower == "content-type") = false ∧
        (header.toLower == "set-cookie") = false := by decide +kernel
  -- Only three names occur, and they can be checked one by one.
  have hmem (h : Header) (hh : h ∈ s.corsHeaders r) : h.1 ∈ ["access-control-allow-credentials",
      "vary", "access-control-allow-origin"] := by
    rw [LoginService.corsHeaders] at hh
    split at hh
    · exact absurd hh List.not_mem_nil
    · rw [AllowedOrigins.originHeaders, List.mem_cons, List.mem_cons] at hh
      rcases hh with rfl | rfl | hh
      · simp
      · simp
      · split at hh
        · split at hh
          · rw [List.mem_singleton.1 hh]
            simp
          · exact absurd hh List.not_mem_nil
        · exact absurd hh List.not_mem_nil
  rw [headerValues, List.map_eq_nil_iff, List.filter_eq_nil_iff]
  intro header hheader
  have hother : (header.1.toLower == name) = false := by
    rcases h with rfl | rfl
    · exact (hnames header.1 (hmem header hheader)).1
    · exact (hnames header.1 (hmem header hheader)).2
  rw [hother]
  decide

/-! ### What a client reads -/

/-- A client reads in a written object the values that its fields stand for. The object itself is
one of the levels that may be nested. -/
theorem Response.reply_json (status : Nat) {written : List (String × String)}
    {fields : List (String × Json.Value)} (h : List.Forall₂ (Json.IsField 126) written fields) :
    (Response.json status (Json.printObject written)).reply = .json status fields := by
  have hdocument : (Response.json status (Json.printObject written)).document? =
      some (.object fields) := by
    rw [document?, json, Json.ofText_value (Json.isValue_printObject h)]
    rfl
  have htypes : headerValues "content-type"
      (Response.json status (Json.printObject written)).headers = ["application/json"] := by
    have hname : ("content-type".toLower == "content-type") = true := by decide +kernel
    rw [headerValues, json, List.filter_cons_of_pos (by exact hname)]
    rfl
  rw [reply, hdocument, htypes]
  rfl

theorem reply_principal (p : Principal) :
    (Response.json 200 p.toJson).reply = (Answer.principal p).reply := by
  have hauthorities : Json.IsValue 126 p.authorities.toJson
      (.list (p.authorities.toList.map .string)) := by
    refine Json.isValue_printList ?_
    rw [List.forall₂_map_left_iff, List.forall₂_map_right_iff, List.forall₂_same]
    exact fun a _ => Json.isValue_quote a
  exact Response.reply_json 200 (.cons (Json.isField_quote _ _) (.cons ⟨rfl, hauthorities⟩ .nil))

/-- The report of a rejection whose reason the client is told. -/
theorem reply_denied {f : LoginFailure} {text reason : String} (hother : f.reason ≠ .other)
    (htext : f.message = text) (hreason : f.reason.text = reason) :
    (ApiError.ofLoginError (.failed f)).response.reply =
      .denied text [("reason", .string reason)] := by
  subst htext hreason
  rw [ApiError.ofLoginError, if_neg hother]
  exact Response.reply_json 401 (.cons (Json.isField_quote _ _)
    (.cons (Json.isField_quote _ _) (.cons (Json.isField_quote _ _) .nil)))

theorem reply_rejected (f : LoginFailure) :
    (ApiError.ofLoginError (.failed f)).response.reply = (Answer.rejected f).reply := by
  obtain ⟨reason, detail⟩ := f
  -- For each reason, the words before the detail can be computed.
  have hmessage {text : String}
      (htext : "Authentication failed (" ++ reason.message ++ "): " = text) :
      LoginFailure.message ⟨reason, detail⟩ = text ++ detail := by
    rw [← htext]
    rfl
  cases reason with
  | unknownIdentity => exact reply_denied (by simp) (hmessage (by decide)) rfl
  | badCredential => exact reply_denied (by simp) (hmessage (by decide)) rfl
  | disabled => exact reply_denied (by simp) (hmessage (by decide)) rfl
  | other =>
    rw [ApiError.ofLoginError, if_pos rfl,
      hmessage (by decide : _ = "Authentication failed (other): ")]
    exact Response.reply_json 500
      (.cons (Json.isField_quote _ _) (.cons (Json.isField_quote _ _) .nil))

theorem reply_loggedOut :
    (Response.json 200 (Json.printObject [("logged_out", "true")])).reply =
      Answer.loggedOut.reply :=
  Response.reply_json 200 (.cons ⟨rfl, Json.isValue_bool true⟩ .nil)

theorem reply_authorized (b : Bool) :
    (Response.json 200 (Json.printObject [("authorized", toString b)])).reply =
      (Answer.authorized b).reply :=
  Response.reply_json 200 (.cons ⟨rfl, Json.isValue_bool b⟩ .nil)

theorem reply_nobody : ApiError.notAuthenticated.response.reply = Answer.nobody.reply :=
  Response.reply_json 401 (.cons (Json.isField_quote _ _) (.cons (Json.isField_quote _ _) .nil))

/-- The cookies of a response and what pages of other origins may do with it are nothing that a
client reads. -/
theorem reply_response {m : Type → Type} (s : LoginService m) (r : Request) (response : Response)
    (jar : CookieJar) : ((response.withHeaders jar.headers).withHeaders
      (s.corsHeaders r)).reply = response.reply := by
  have htypes : headerValues "content-type" ((response.headers ++ jar.headers) ++ s.corsHeaders r) =
      headerValues "content-type" response.headers := by
    rw [headerValues_append, headerValues_append, headerValues_jar,
      headerValues_corsHeaders s r (.inl rfl), List.append_nil, List.append_nil]
  rw [Response.reply, Response.withHeaders, Response.withHeaders, htypes]
  rfl

/-- The cookies that a browser keeps are those of the jar. -/
theorem update_response {m : Type → Type} (s : LoginService m) (r : Request) {response : Response}
    (hbare : response.setCookies = []) (jar : CookieJar) (b : Browser) :
    b.update ((response.withHeaders jar.headers).withHeaders (s.corsHeaders r)) =
      (headerValues "set-cookie" jar.headers).foldl Browser.receive b := by
  show ((response.withHeaders jar.headers).withHeaders (s.corsHeaders r)).setCookies.foldl
    Browser.receive b = _
  rw [Response.setCookies_withHeaders, Response.setCookies_withHeaders, hbare,
    headerValues_corsHeaders s r (.inr rfl), List.nil_append, List.append_nil]

end Http

end WebLogin
