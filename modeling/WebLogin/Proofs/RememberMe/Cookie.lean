/-
A login that is remembered by a cookie.

The cookie of a login holds a token. A later request that brings it is logged in as the same
principal until a minute after the last second of the token, whether a login is kept in a session or
not. After that, and for a token that is not signed with the secret, nobody is logged in, and the
cookie is removed.

* `queued_addResponseCookie`, `queued_clearCookie`, `queued_loginSuccess` — what is queued;
* `autoLogin_tokenCookie`, `autoLogin_of_not_isSigned` — what a cookie is worth;
* `RememberMeConfig.scope_recalls` — a login and a later request.
-/
import WebLogin.Proofs.Login.Requests
import WebLogin.Proofs.RememberMe.Token
import WebLogin.Proofs.Store.World
import WebLogin.RememberMe.Service

namespace WebLogin

variable {σ τ ε : Type}

namespace RequestContext

variable {ctx : RequestContext} {name : String}

/-- The cookies of a name that are queued for the response. -/
def queued (ctx : RequestContext) (name : String) : List ResponseCookie :=
  ctx.responseCookies.filter fun c => c.name == name

/-- A cookie that is queued takes the place of all others of its name. -/
theorem queued_addResponseCookie (ctx : RequestContext) (cookie : ResponseCookie) :
    (ctx.addResponseCookie cookie).queued cookie.name = [cookie] := by
  have hnone : (ctx.responseCookies.filter fun c => c.name != cookie.name).filter
      (fun c => c.name == cookie.name) = [] := by
    simp [List.filter_eq_nil_iff]
  rw [queued, addResponseCookie, List.filter_append, hnone, List.nil_append,
    List.filter_singleton, BEq.rfl]
  rfl

/-- Cookies of another name stay as they are. -/
theorem queued_addResponseCookie_of_ne (ctx : RequestContext) {cookie : ResponseCookie}
    (h : cookie.name ≠ name) : (ctx.addResponseCookie cookie).queued name = ctx.queued name := by
  have hkeeps : ∀ c ∈ ctx.responseCookies,
      ((c.name == name) && (c.name != cookie.name)) = (c.name == name) := by
    intro c _
    by_cases hc : c.name = name
    · simp [hc, Ne.symm h]
    · simp [hc]
  rw [queued, queued, addResponseCookie, List.filter_append, List.filter_filter,
    List.filter_congr hkeeps, List.filter_singleton, beq_eq_false_iff_ne.2 h]
  exact List.append_nil _

theorem queued_foldl {names : List String} (h : name ∉ names) (ctx : RequestContext) :
    RequestContext.queued (names.foldl (fun ctx gone => ctx.addResponseCookie (.removal gone)) ctx)
      name = ctx.queued name := by
  induction names generalizing ctx with
  | nil => rfl
  | cons first names ih =>
    rw [List.mem_cons, not_or] at h
    rw [List.foldl_cons, ih h.2]
    exact ctx.queued_addResponseCookie_of_ne (Ne.symm h.1)

end RequestContext

namespace RememberMeConfig

variable {rc : RememberMeConfig} {ctx : RequestContext} {p : Principal} {issued later : Timestamp}
  {last : Nat}

/-! ### What is queued -/

/-- The cookie that remembers the login of a principal up to some second. -/
def tokenCookie (rc : RememberMeConfig) (p : Principal) (last : Nat) : ResponseCookie :=
  { name := rc.cookieName, value := Token.sign rc.secret (Token.claimsOf p last),
    maxAge := some rc.ttl }

theorem queued_clearCookie (rc : RememberMeConfig) (ctx : RequestContext) :
    (rc.clearCookie ctx).queued rc.cookieName = [.removal rc.cookieName] :=
  ctx.queued_addResponseCookie (.removal rc.cookieName)

theorem loginSuccess_eq (hlast : Token.expiry issued rc.ttl = .ok last) (ctx : RequestContext)
    (p : Principal) :
    rc.loginSuccess issued ctx p = ctx.addResponseCookie (rc.tokenCookie p last) := by
  rw [loginSuccess, Token.issue_eq rc.secret p hlast]
  rfl

theorem queued_loginSuccess (hlast : Token.expiry issued rc.ttl = .ok last) (ctx : RequestContext)
    (p : Principal) :
    (rc.loginSuccess issued ctx p).queued rc.cookieName = [rc.tokenCookie p last] := by
  rw [loginSuccess_eq hlast]
  exact ctx.queued_addResponseCookie (rc.tokenCookie p last)

/-! ### What a cookie is worth -/

theorem autoLogin_of_ok {now : Timestamp} {token : String} {claims : Claims}
    (hctx : ctx.requestCookie? rc.cookieName = some token)
    (hverify : Token.verify rc.secret now token = .ok claims) :
    rc.autoLogin now ctx = (ctx, some claims.principal) := by
  rw [autoLogin, hctx]
  simp only [hverify]

theorem autoLogin_of_error {now : Timestamp} {token : String} {e : TokenError}
    (hctx : ctx.requestCookie? rc.cookieName = some token)
    (hverify : Token.verify rc.secret now token = .error e) :
    rc.autoLogin now ctx = (rc.clearCookie ctx, none) := by
  rw [autoLogin, hctx]
  simp only [hverify]

/-- A cookie that remembers a login does so until a minute after the last second of its token. -/
theorem autoLogin_tokenCookie (hlast : Token.expiry issued rc.ttl = .ok last)
    (hctx : ctx.requestCookie? rc.cookieName = some (rc.tokenCookie p last).value)
    (later : Timestamp) :
    rc.autoLogin later ctx =
      if later.seconds ≤ last + Token.leeway then (ctx, some p)
      else (rc.clearCookie ctx, none) := by
  have hverify := Token.verify_issued rc.secret p hlast later
  by_cases hlater : later.seconds ≤ last + Token.leeway
  · rw [if_pos hlater] at hverify
    rw [if_pos hlater, autoLogin_of_ok hctx hverify, Token.principal_claimsOf]
  · rw [if_neg hlater] at hverify
    rw [if_neg hlater, autoLogin_of_error hctx hverify]

/-- A token that is not signed with the secret is worth nothing. -/
theorem autoLogin_of_not_isSigned {token : String}
    (hctx : ctx.requestCookie? rc.cookieName = some token)
    (htoken : ¬Token.IsSigned rc.secret token) (now : Timestamp) :
    rc.autoLogin now ctx = (rc.clearCookie ctx, none) := by
  cases hverify : Token.verify rc.secret now token with
  | ok claims => exact absurd (Token.isSigned_of_verify hverify) htoken
  | error e => exact autoLogin_of_error hctx hverify

end RememberMeConfig

/-! ### A later request -/

/-- A request is not logged in, and does not belong to a live session: no sessions are kept, or
those that are kept are a map in which there is none under the id of the request. -/
inductive SessionBinder.Lifeless (M : StoreModel σ τ) (k : Nat) (s : σ) (ctx : RequestContext) :
    SessionBinder (StateT σ (Except ε)) → Prop where
  | perClient : Lifeless M k s ctx .perClient
  | perSession {store : SessionStore (StateT σ (Except ε))} (laws : M.Laws store fun _ => False)
      (valid : M.valid (k + 1) s)
      (dead : ∀ id, ctx.sessionId = some id → M.session? s id = none) :
      Lifeless M k s ctx (.perSession store)

namespace SessionBinder.Lifeless

variable {M : StoreModel σ τ} {k : Nat} {s : σ} {ctx : RequestContext}
  {b : SessionBinder (StateT σ (Except ε))}

/-- Nobody is restored; the binder can still bind somebody. -/
theorem restore (h : Lifeless M k s ctx b) (hctx : ctx.principal = none) :
    ∃ id s₁, Yields (b.restore ctx) s (ctx.withSession id, .ok ()) s₁ ∧
      ∀ p, ∃ id' s', Yields (b.bind (ctx.withSession id) p) s₁
        ((ctx.withSession id').bindPrincipal p, .ok ()) s' := by
  cases h with
  | perClient => exact ⟨ctx.sessionId, s, .pure _ _, fun p => ⟨ctx.sessionId, s, .pure _ _⟩⟩
  | @perSession store laws valid dead =>
    obtain ⟨s₁, hrestore, hsame⟩ := SessionBinder.restore_yields laws not_false valid ctx
    have hholder : ctx.sessionId.bind (M.holder s) = none := by
      rw [Option.bind_eq_none_iff]
      intro id hid
      rw [StoreModel.holder, dead id hid, Option.bind_none]
    rw [SessionBinder.restored_eq hctx, hholder, ← hctx] at hrestore
    refine ⟨_, s₁, hrestore, fun p => ?_⟩
    obtain ⟨id', s', hbind, -⟩ := SessionBinder.bind_yields laws not_false not_false not_false
      hsame.valid _ p
    exact ⟨some id', s', hbind⟩

end SessionBinder.Lifeless

/-- A request brings a cookie to a started command that remembers logins by tokens. It is not logged
in and has no live session, and the clock shows some moment when it is asked. -/
structure RememberMeConfig.Brought (rc : RememberMeConfig) (cookie : ResponseCookie)
    (M : StoreModel σ τ) (k : Nat) (s : σ) (c : LoginCommand (StateT σ (Except ε)))
    (ctx : RequestContext) (later : Timestamp) : Prop where
  started : ∃ handlers b clock, c.started = some ⟨handlers, b⟩ ∧ b.Lifeless M k s ctx ∧
    c.config.rememberMe = rc.service clock ∧
    ∀ step s₁, Yields (b.restore ctx) s step s₁ → Yields clock s₁ later s₁
  nobody : ctx.principal = none
  brings : ctx.requestCookie? rc.cookieName = some cookie.value

namespace RememberMeConfig

variable {M : StoreModel σ τ} {k : Nat} {s : σ} {c : LoginCommand (StateT σ (Except ε))}
  {rc : RememberMeConfig} {ctx : RequestContext} {p : Principal} {issued later : Timestamp}
  {last : Nat}

theorem scope_tokenCookie (hlast : Token.expiry issued rc.ttl = .ok last)
    (h : rc.Brought (rc.tokenCookie p last) M k s c ctx later)
    (hlater : later.seconds ≤ last + Token.leeway) :
    ∃ ctx' s', Yields (c.scope ctx) s (ctx', .ok ()) s' ∧ ctx'.principal = some p ∧
      ctx'.responseCookies = ctx.responseCookies := by
  obtain ⟨handlers, b, clock, hstarted, hlifeless, hrm, hclock⟩ := h.started
  obtain ⟨id, s₁, hrestore, hbinds⟩ := hlifeless.restore h.nobody
  obtain ⟨id', s', hbind⟩ := hbinds p
  -- Nobody was restored, so the service is asked, and the token is accepted.
  have hauto : Yields (c.config.rememberMe.autoLogin (ctx.withSession id)) s₁
      (ctx.withSession id, some p) s₁ := by
    have hbrings : (ctx.withSession id).requestCookie? rc.cookieName =
        some (rc.tokenCookie p last).value := h.brings
    rw [hrm]
    refine (hclock _ _ hrestore).bind ?_
    rw [autoLogin_tokenCookie hlast hbrings, if_pos hlater]
    exact .pure _ _
  exact ⟨_, s', LoginCommand.scope_of_some hstarted hrestore h.nobody hauto hbind, rfl, rfl⟩

/-- A login queues a cookie, the only one of its name. A later request that brings it and has no
live session is logged in as the same principal until a minute after the last second of the token,
and nothing is queued for it. Later than that, nobody is found, and the removal of the cookie is all
that is queued under its name. A token that is not signed with the secret of its reader stands for
nobody at any time. -/
theorem scope_recalls (rc : RememberMeConfig) (p : Principal) (old : RequestContext)
    (hlast : Token.expiry issued rc.ttl = .ok last) :
    ∃ cookie, (rc.loginSuccess issued old p).queued rc.cookieName = [cookie] ∧
      (∀ {M : StoreModel σ τ} {k s} {c : LoginCommand (StateT σ (Except ε))} {ctx later},
        rc.Brought cookie M k s c ctx later → later.seconds ≤ last + 60 →
          ∃ ctx' s', Yields (c.scope ctx) s (ctx', .ok ()) s' ∧ ctx'.principal = some p ∧
            ctx'.responseCookies = ctx.responseCookies) ∧
      (∀ ctx (later : Timestamp), ctx.requestCookie? rc.cookieName = some cookie.value →
        last + 60 < later.seconds →
          (rc.autoLogin later ctx).2 = none ∧
            (rc.autoLogin later ctx).1.queued rc.cookieName = [.removal rc.cookieName]) ∧
      ∀ ctx later token, ctx.requestCookie? rc.cookieName = some token →
        ¬Token.IsSigned rc.secret token → (rc.autoLogin later ctx).2 = none := by
  refine ⟨rc.tokenCookie p last, queued_loginSuccess hlast old p, scope_tokenCookie hlast, ?_, ?_⟩
  · intro ctx later hctx hlater
    have hlate : ¬later.seconds ≤ last + Token.leeway := by
      rw [Token.leeway]
      omega
    rw [autoLogin_tokenCookie hlast hctx, if_neg hlate]
    exact ⟨rfl, rc.queued_clearCookie ctx⟩
  · intro ctx later token hctx htoken
    rw [autoLogin_of_not_isSigned hctx htoken]

/-- A command that keeps sessions in memory and remembers logins by tokens, eleven minutes after the
epoch. -/
def elevenMinutes : LoginCommand (World.Run Unit) where
  config :=
    { verifier := ⟨fun _ => return .error .unknownIdentity⟩
      store := some (World.sessionStore World.counting)
      strategy := .null
      rememberMe := service ⟨"remember-me", "secret", 600⟩ (return ⟨660000000000⟩)
      handlers := some []
      mode := .perSession
      invalidateSession := true }
  started := some ⟨[], .perSession (World.sessionStore World.counting)⟩

/-- Zoë logged in at the epoch for ten minutes, and is remembered in the last second of the
eleventh. -/
theorem elevenMinutes_recalls : ∃ cookie ctx' w',
    (loginSuccess ⟨"remember-me", "secret", 600⟩ ⟨0⟩ {} ⟨"Zoë \"Z\"", .ofList ["admin"]⟩).queued
      "remember-me" = [cookie] ∧
    Yields (elevenMinutes.scope { requestCookies := [("remember-me", cookie.value)] })
      ⟨⟨60, []⟩, 0, 0, ()⟩ (ctx', .ok ()) w' ∧
    ctx'.principal = some ⟨"Zoë \"Z\"", .ofList ["admin"]⟩ := by
  have hlast : Token.expiry ⟨0⟩ 600 = .ok 600 := by decide
  obtain ⟨cookie, hqueued, hrecalls, -⟩ := scope_recalls ⟨"remember-me", "secret", 600⟩
    ⟨"Zoë \"Z\"", .ofList ["admin"]⟩ {} hlast
  have hlaws : (World.model World.counting 8 60 0 ()).Laws (World.sessionStore World.counting)
      fun _ => False :=
    World.laws (World.injOn_counting (by omega)) (by decide) (by decide) _
  have hvalid : (World.model World.counting 8 60 0 ()).valid 1 ⟨⟨60, []⟩, 0, 0, ()⟩ :=
    ⟨World.sound_of_empty rfl, rfl, rfl, rfl, by decide⟩
  have hbrought : Brought ⟨"remember-me", "secret", 600⟩ cookie
      (World.model World.counting 8 60 0 ()) 0 ⟨⟨60, []⟩, 0, 0, ()⟩ elevenMinutes
      { requestCookies := [("remember-me", cookie.value)] } ⟨660000000000⟩ :=
    ⟨⟨_, _, _, rfl, .perSession hlaws hvalid (by simp), rfl, fun _ _ _ => .pure _ _⟩, rfl, rfl⟩
  obtain ⟨ctx', w', hscope, hprincipal, -⟩ := hrecalls hbrought (by decide)
  exact ⟨cookie, ctx', w', hqueued, hscope, hprincipal⟩

end RememberMeConfig

end WebLogin
