/-
A browser with a cookie jar.

A browser reads the cookies that responses set, forgets those that are to be kept for no time, and
sends the others with every request. After each exchange with the service it holds exactly the
cookie of the session that the request left with.

* `ofHeaders_send` — a browser that holds the cookie of a session presents that session;
* `update_writeContext` — it then holds the cookie of the session in the context.
-/
import WebLogin.Http.Message
import WebLogin.Proofs.Http.Cookies

namespace WebLogin

namespace Http

/-- The cookies that a browser keeps, with names and values as they are sent. -/
abbrev Browser := List SetCookie

namespace Browser

/-- Whether two cookies take the same place in a browser. A cookie without a path is for the
directory of the request, and that is the top one for every route. -/
def samePlace (c c' : SetCookie) : Bool :=
  c.name == c'.name && c.path.getD "/" == c'.path.getD "/"

/-- A browser after it read the value of a header that sets a cookie. -/
def receive (b : Browser) (line : String) : Browser :=
  match SetCookie.parse? line with
  | none => b
  | some c =>
    let others := b.filter fun c' => !samePlace c c'
    if c.maxAge = some 0 then others else others ++ [c]

/-- The headers that bring the cookies back. -/
def cookieHeaders : Browser → List Header
  | [] => []
  | c :: cs => [("cookie", "; ".intercalate ((c :: cs).map fun c => c.name ++ "=" ++ c.value))]

/-- A request as the browser sends it. -/
def send (b : Browser) (r : Request) : Request :=
  { r with headers := r.headers ++ b.cookieHeaders }

/-- A browser after a response. -/
def update (b : Browser) (r : Response) : Browser :=
  (headerValues "set-cookie" r.headers).foldl receive b

/-- A browser that keeps the cookie of a session, or nothing. -/
def holding (cookieName : String) (id : Option SessionId) : Browser :=
  (id.map (SetCookie.ofSession cookieName)).toList

end Browser

/-! ### Sending -/

theorem headerValues_append (name : String) (hs hs' : List Header) :
    headerValues name (hs ++ hs') = headerValues name hs ++ headerValues name hs' := by
  rw [headerValues, List.filter_append, List.map_append]
  rfl

theorem cookiesOf_session {cookieName : String} (h : IsCookieName cookieName) (id : SessionId) :
    cookiesOf (SetCookie.encoded cookieName ++ "=" ++ id.text) = [(cookieName, id.text)] := by
  have hname := SetCookie.wire_encoded cookieName
  obtain ⟨hsemicolon, hpair⟩ := (SetCookie.isCookieName_encoded h.ne_empty).namedPair? (wire_id id)
  have hplain : isPlain (SetCookie.encoded cookieName ++ "=" ++ id.text) = true :=
    isPlain_append (isPlain_append hname.isPlain (by decide)) (wire_id id).isPlain
  have hvalue : Percent.decode? id.text = some id.text := by
    rw [← SetCookie.encoded_id, SetCookie.decode?_encoded, SetCookie.encoded_id]
  have hcookie : cookie? (SetCookie.encoded cookieName ++ "=" ++ id.text).toList =
      some (cookieName, id.text) := by
    rw [cookie?, hpair]
    show (do return (← Percent.decode? (SetCookie.encoded cookieName), ← Percent.decode? id.text)) =
      some (cookieName, id.text)
    rw [SetCookie.decode?_encoded, hvalue]
    rfl
  rw [cookiesOf, if_pos hplain, splitOn_of_notMem hsemicolon, List.filterMap_cons, hcookie,
    List.filterMap_nil]

namespace Browser

/-- The jar of a request that brings the cookie of a session, or none. -/
def received (cookieName : String) (id : Option SessionId) : CookieJar :=
  { received := (id.map fun id => (cookieName, id.text)).toList }

theorem ofHeaders_send {cookieName : String} (h : IsCookieName cookieName) {r : Request}
    (hr : headerValues "cookie" r.headers = []) (id : Option SessionId) :
    CookieJar.ofHeaders ((holding cookieName id).send r).headers = received cookieName id := by
  rw [CookieJar.ofHeaders, send, headerValues_append, hr, List.nil_append]
  cases id with
  | none => rfl
  | some id =>
    have hvalues : headerValues "cookie" (holding cookieName (some id)).cookieHeaders =
        [SetCookie.encoded cookieName ++ "=" ++ id.text] := by
      have hlower : ("cookie".toLower == "cookie") = true := by decide +kernel
      have hheaders : (holding cookieName (some id)).cookieHeaders =
          [("cookie", SetCookie.encoded cookieName ++ "=" ++ id.text)] := rfl
      rw [headerValues, hheaders, List.filter_cons_of_pos (by exact hlower)]
      rfl
    rw [hvalues, List.flatMap_singleton, cookiesOf_session h]
    rfl

theorem received?_received (cookieName : String) (id : Option SessionId) :
    (received cookieName id).received? cookieName = id.map SessionId.text := by
  cases id with
  | none => rfl
  | some id =>
    rw [CookieJar.received?, received, Option.map_some, Option.toList_some, List.lookup_cons,
      beq_self_eq_true]
    rfl

theorem presented_received (cookieName : String) (id : Option SessionId) :
    (received cookieName id).presented cookieName = id := by
  rw [CookieJar.presented, received?_received]
  cases id with
  | none => rfl
  | some id => rw [Option.map_some, Option.bind_some, SessionId.parse?_text]

/-! ### Receiving -/

theorem rawText_session (cookieName : String) (id : SessionId) :
    CookieJar.rawText (CookieJar.sessionCookie cookieName (some id)) =
      cookieName ++ "=" ++ id.text ++ ";" ++ " Path=/; HttpOnly" := by
  have htext : CookieJar.rawText (CookieJar.sessionCookie cookieName (some id)) =
      cookieName ++ "=" ++ id.text ++ "; Path=/" ++ "; HttpOnly" ++ "" := rfl
  rw [htext]
  simp only [String.append_assoc]
  rfl

theorem parse?_rawText {cookieName : String} (h : IsCookieName cookieName) (id : SessionId) :
    SetCookie.parse? (CookieJar.rawText (CookieJar.sessionCookie cookieName (some id))) =
      some { SetCookie.forSession cookieName id with sameSiteLax := false } := by
  obtain ⟨hsemicolon, hpair⟩ := h.namedPair? (wire_id id)
  have hsplit : splitOn ';' " Path=/; HttpOnly".toList =
      [" Path=/".toList, " HttpOnly".toList] := rfl
  rw [rawText_session, SetCookie.parse?_append hsemicolon hpair, hsplit, List.foldl_cons,
    List.foldl_cons, List.foldl_nil, SetCookie.withAttribute_path, SetCookie.withAttribute_httpOnly]
  rfl

theorem write_session {cookieName : String} (h : IsCookieName cookieName) (now : Timestamp)
    (old : Option SessionId) (id : SessionId) :
    (received cookieName old).write now (CookieJar.sessionCookie cookieName (some id)) =
      { received cookieName old with pending := [SetCookie.forSession cookieName id] } := by
  rw [CookieJar.write, parse?_rawText h]
  rfl

theorem write_removal (cookieName : String) (now : Timestamp) (id : SessionId) :
    (received cookieName (some id)).write now (CookieJar.sessionCookie cookieName none) =
      { received cookieName (some id) with pending := [SetCookie.removal now cookieName] } := by
  have hsome : ((received cookieName (some id)).received? cookieName).isSome = true := by
    rw [received?_received]
    rfl
  have hremove : (received cookieName (some id)).remove now cookieName =
      (received cookieName (some id)).add (SetCookie.removal now cookieName) := by
    rw [CookieJar.remove, if_pos hsome]
  exact hremove

/-- A cookie of that name for the whole site takes the place of the session cookie. -/
theorem samePlace_ofSession {cookieName : String} {c : SetCookie}
    (hname : c.name = SetCookie.encoded cookieName) (hpath : c.path = some "/") (id : SessionId) :
    samePlace c (.ofSession cookieName id) = true := by
  rw [samePlace, hname, hpath, Bool.and_eq_true]
  exact ⟨beq_self_eq_true _, beq_self_eq_true _⟩

theorem receive_forSession {cookieName : String} (h : IsCookieName cookieName)
    (old : Option SessionId) (id : SessionId) :
    (holding cookieName old).receive (SetCookie.forSession cookieName id).text =
      holding cookieName (some id) := by
  rw [receive, SetCookie.parse?_text_forSession h]
  cases old with
  | none => rfl
  | some old =>
    have hothers : (holding cookieName (some old)).filter (fun c' =>
        !samePlace (.ofSession cookieName id) c') = [] := by
      rw [holding, Option.map_some, Option.toList_some, List.filter_cons_of_neg
        (by rw [samePlace_ofSession rfl rfl]; decide), List.filter_nil]
    dsimp only
    rw [hothers, if_neg (by simp [SetCookie.ofSession])]
    rfl

theorem receive_removal {cookieName : String} (h : IsCookieName cookieName) (now : Timestamp)
    (old : SessionId) :
    (holding cookieName (some old)).receive (SetCookie.removal now cookieName).text = [] := by
  obtain ⟨e, hparse⟩ := SetCookie.parse?_text_removal h.ne_empty now
  rw [receive, hparse]
  dsimp only
  -- Its age of zero drops the cookie, and nothing is kept in its place.
  rw [if_pos rfl, holding, Option.map_some, Option.toList_some,
    List.filter_cons_of_neg (by rw [samePlace_ofSession rfl rfl]; decide), List.filter_nil]

/-- The values that set cookies, among the headers that a jar sends. -/
theorem headerValues_headers (jar : CookieJar) :
    headerValues "set-cookie" jar.headers =
      (jar.pending.map SetCookie.text).filter isHeaderValue := by
  have hlower : ("set-cookie".toLower == "set-cookie") = true := by decide +kernel
  rw [CookieJar.headers]
  induction (jar.pending.map SetCookie.text).filter isHeaderValue with
  | nil => rfl
  | cons line lines ih =>
    rw [headerValues] at ih ⊢
    rw [List.map_cons, List.filter_cons_of_pos (by exact hlower), List.map_cons, ih]

/-- A browser holds the cookie of the session that a request left with. -/
theorem update_writeContext {cookieName : String} (h : IsCookieName cookieName) (now : Timestamp)
    (old : Option SessionId) {ctx : RequestContext} (hctx : ctx.responseCookies = []) :
    (headerValues "set-cookie"
      ((received cookieName old).writeContext cookieName now old ctx).1.headers).foldl receive
        (holding cookieName old) = holding cookieName ctx.sessionId := by
  rw [headerValues_headers, CookieJar.writeContext, RequestContext.takeResponseCookies, hctx]
  dsimp only [List.foldl_nil]
  -- A cookie is only set if the session has changed, and removed if there is none any more.
  by_cases hsame : ctx.sessionId = old
  · rw [if_pos hsame, hsame]
    rfl
  · rw [if_neg hsame]
    cases hnew : ctx.sessionId with
    | some id =>
      rw [write_session h, List.map_cons, List.map_nil, List.filter_cons_of_pos
        (SetCookie.isHeaderValue_text_forSession cookieName id), List.filter_nil, List.foldl_cons,
        List.foldl_nil, receive_forSession h]
    | none =>
      cases old with
      | none => exact absurd hnew hsame
      | some id =>
        rw [write_removal, List.map_cons, List.map_nil, List.filter_cons_of_pos
          (SetCookie.isHeaderValue_text_removal now cookieName), List.filter_nil,
          List.foldl_cons, List.foldl_nil, receive_removal h]
        rfl

end Browser

end Http

end WebLogin
