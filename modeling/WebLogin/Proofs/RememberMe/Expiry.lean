/-
When a token can be issued, and a login for which none can.

The moment of expiry has to pass three bounds, each in numbers of its own: the time to live is
counted in milliseconds of 64 bits, the moment must fall on a day of the calendar, and its second
must not lie before the epoch. Within them the second is exact, whatever part of a second the clock
shows; outside of them there is an error and no token. A login is over by then, so it is not touched
by the error, and nothing is queued under the name of the cookie.

* `Token.expiry_eq_ok_iff`, `Token.hindered_of_expiry` — whether there is a token, and why not;
* `Authentication.of_run_forgetful` — a login up to the point where remember-me is told of it;
* `RememberMeConfig.expiry_exact` — the second of expiry, and a login without a token.
-/
import WebLogin.Http.Date
import WebLogin.Login.Command
import WebLogin.Proofs.RememberMe.Cookie

namespace WebLogin

variable {σ ε : Type} {s s' : σ} {ctx ctx' : RequestContext}

/-! ### The second of expiry -/

namespace Timestamp

/-- The moment falls on a day of the calendar: the first one is 1 January of the year -262143, the
last one 31 December of the year 262142. -/
def InCalendar (t : Timestamp) : Prop :=
  (⟨-262143, 1, 1, 0, 0, 0⟩ : Http.HttpDate).dayNumber ≤
      t.seconds / 86400 + Http.HttpDate.epochDay ∧
    t.seconds / 86400 + Http.HttpDate.epochDay ≤
      (⟨262142, 12, 31, 0, 0, 0⟩ : Http.HttpDate).dayNumber

theorem hasDate_iff (t : Timestamp) : t.hasDate = true ↔ t.InCalendar := by
  have hfirst : (⟨-262143, 1, 1, 0, 0, 0⟩ : Http.HttpDate).dayNumber = -95745824 := by decide
  have hlast : (⟨262142, 12, 31, 0, 0, 0⟩ : Http.HttpDate).dayNumber = 95745704 := by decide
  rw [hasDate, Bool.and_eq_true, decide_eq_true_eq, decide_eq_true_eq, InCalendar, hfirst, hlast,
    firstSecond, lastSecond, Http.HttpDate.epochDay]
  omega

end Timestamp

namespace Token

/-- A time to live can be counted in milliseconds of 64 bits, on either side of zero. -/
def IsDuration (ttl : Int) : Prop :=
  -(signedLimit64 : Int) < ttl * 1000 ∧ ttl * 1000 < signedLimit64

theorem isDuration_iff (ttl : Int) :
    IsDuration ttl ↔ ¬(ttl < -maxDuration ∨ maxDuration < ttl) := by
  have hlimit : signedLimit64 = 9223372036854775808 := rfl
  rw [IsDuration, maxDuration, hlimit]
  omega

variable {now : Timestamp} {ttl : Int} {secret : String} {p : Principal}

/-- What stands in the way of a token, if anything does. -/
inductive Hindered (now : Timestamp) (ttl : Int) : IssueError → Prop where
  | noDuration (long : ¬IsDuration ttl) : Hindered now ttl .noDuration
  | outOfRange (duration : IsDuration ttl) (late : ¬(now.addSeconds ttl).InCalendar) :
      Hindered now ttl .outOfRange
  | beforeEpoch (duration : IsDuration ttl) (date : (now.addSeconds ttl).InCalendar)
      (early : now.seconds + ttl < 0) : Hindered now ttl .beforeEpoch

/-- The bounds are checked one after the other. -/
theorem expiry_cases (now : Timestamp) (ttl : Int) :
    (∃ e, expiry now ttl = .error e ∧ Hindered now ttl e) ∨
      expiry now ttl = .ok (now.seconds + ttl).toNat ∧ IsDuration ttl ∧
        (now.addSeconds ttl).InCalendar ∧ 0 ≤ now.seconds + ttl := by
  rw [expiry]
  simp only [now.seconds_addSeconds, Bool.or_eq_true, decide_eq_true_eq]
  by_cases hduration : IsDuration ttl
  · rw [if_neg ((isDuration_iff ttl).1 hduration)]
    by_cases hdate : (now.addSeconds ttl).InCalendar
    · rw [if_neg (by simpa using (Timestamp.hasDate_iff _).2 hdate)]
      by_cases hearly : now.seconds + ttl < 0
      · rw [if_pos hearly]
        exact .inl ⟨.beforeEpoch, rfl, .beforeEpoch hduration hdate hearly⟩
      · rw [if_neg hearly]
        exact .inr ⟨rfl, hduration, hdate, by omega⟩
    · rw [if_pos (by simpa [← Timestamp.hasDate_iff] using hdate)]
      exact .inl ⟨.outOfRange, rfl, .outOfRange hduration hdate⟩
  · have hlong := hduration
    rw [isDuration_iff, Decidable.not_not] at hlong
    rw [if_pos hlong]
    exact .inl ⟨.noDuration, rfl, .noDuration hduration⟩

/-- A token can be issued if its moment of expiry is within the three bounds, and then it expires
at the very second. -/
theorem expiry_eq_ok_iff {second : Nat} : expiry now ttl = .ok second ↔
    IsDuration ttl ∧ (now.addSeconds ttl).InCalendar ∧ (second : Int) = now.seconds + ttl := by
  rcases expiry_cases now ttl with ⟨e, he, hhindered⟩ | ⟨hok, hduration, hdate, hepoch⟩
  · rw [he]
    constructor
    · intro h
      cases h
    · rintro ⟨hduration, hdate, hsecond⟩
      cases hhindered with
      | noDuration hlong => exact absurd hduration hlong
      | outOfRange _ hlate => exact absurd hdate hlate
      | beforeEpoch _ _ hearly => omega
  · rw [hok]
    constructor
    · intro h
      cases h
      exact ⟨hduration, hdate, by omega⟩
    · rintro ⟨-, -, hsecond⟩
      rw [← hsecond, Int.toNat_natCast]

/-- The last second of the calendar is a number of 64 bits by far. -/
theorem lt_of_inCalendar {second : Nat} (h : (now.addSeconds ttl).InCalendar)
    (hsecond : (second : Int) = now.seconds + ttl) : second < signedLimit64 := by
  have hdate := (Timestamp.hasDate_iff _).2 h
  rw [Timestamp.hasDate, Bool.and_eq_true, decide_eq_true_eq, decide_eq_true_eq,
    now.seconds_addSeconds, Timestamp.lastSecond] at hdate
  have hlimit : signedLimit64 = 9223372036854775808 := rfl
  omega

theorem hindered_of_expiry {e : IssueError} (h : expiry now ttl = .error e) :
    Hindered now ttl e := by
  rcases expiry_cases now ttl with ⟨e', he, hhindered⟩ | ⟨hok, -⟩
  · rw [h] at he
    cases he
    exact hhindered
  · rw [h] at hok
    cases hok

/-- A token is issued where it can be given a second of expiry. -/
theorem issue_eq_ok_iff {token : String} : issue secret ttl now p = .ok token ↔
    ∃ second, expiry now ttl = .ok second ∧ token = sign secret (claimsOf p second) := by
  rw [issue]
  cases expiry now ttl with
  | error e => simp [Except.map]
  | ok second => simp [Except.map, eq_comm]

theorem expiry_of_issue_error {e : IssueError} (h : issue secret ttl now p = .error e) :
    expiry now ttl = .error e := by
  rw [issue] at h
  cases hexpiry : expiry now ttl with
  | error e' =>
    rw [hexpiry] at h
    cases h
    rfl
  | ok second =>
    rw [hexpiry] at h
    cases h

end Token

/-! ### A login without a token -/

namespace SessionStrategy

/-- A strategy that leaves the queued cookies of a name as they are. -/
def Spares (name : String) (strategy : SessionStrategy (StateT σ (Except ε))) : Prop :=
  ∀ {ctx p s ctx' r s'}, Yields (strategy.onAuthentication ctx p) s (ctx', r) s' →
    ctx'.queued name = ctx.queued name

theorem spares_null (name : String) :
    (null : SessionStrategy (StateT σ (Except ε))).Spares name := by
  intro ctx p s ctx' r s' h
  obtain ⟨rfl, -⟩ := Prod.mk.inj (h.eq (.pure _ _)).1
  rfl

theorem spares_changeId (store : SessionStore (StateT σ (Except ε))) (name : String) :
    (changeId store).Spares name := by
  intro ctx p s ctx' r s' h
  obtain ⟨⟨ctx₁, moved⟩, s₁, hmoved, h⟩ := h.of_bind
  obtain ⟨rfl, -⟩ := Prod.mk.inj (h.eq (.pure _ _)).1
  obtain ⟨id, rfl⟩ := eq_withSession_of_rotate hmoved
  rfl

end SessionStrategy

/-- The same command without anybody who remembers logins. -/
def LoginCommand.forgetful (c : LoginCommand (StateT σ (Except ε))) :
    LoginCommand (StateT σ (Except ε)) :=
  { c with config := { c.config with rememberMe := .null } }

/-- Binding a principal and asking the strategy leaves the queued cookies of a name as they are, if
the strategy does. -/
theorem Authentication.queued_eq_of_bind {a : Authentication (StateT σ (Except ε))} {name : String}
    (hspares : a.strategy.Spares name) {p : Principal} {r : Except LoginFailure Unit}
    (h : Yields (a.bind ctx p) s (ctx', r) s') : ctx'.queued name = ctx.queued name := by
  obtain ⟨⟨ctx₁, bound⟩, s₁, hbind, h⟩ := h.of_bind
  obtain ⟨id, holder, rfl⟩ := SessionBinder.eq_of_bind hbind
  cases bound with
  | error e =>
    obtain ⟨rfl, -⟩ := Prod.mk.inj (h.eq (.pure _ _)).1
    rfl
  | ok u =>
    obtain ⟨⟨ctx₂, agreed⟩, s₂, hagreed, h⟩ := h.of_bind
    obtain ⟨rfl, -⟩ := Prod.mk.inj (h.eq (.pure _ _)).1
    have hqueued := hspares hagreed
    exact hqueued

/-- A login that succeeds has come to the point where remember-me is told of it, with a request that
would be left as it is if nobody remembered logins. -/
theorem Authentication.of_run_forgetful {a : Authentication (StateT σ (Except ε))}
    {username password : String} {p : Principal}
    (h : Yields (({ a with rememberMe := .null } : Authentication _).run ctx username password) s
      (ctx', .ok p) s') :
    ∃ s₁, Yields (a.bind ctx p) s₁ (ctx', .ok ()) s' ∧
      ∀ ctx₂ s₂, Yields (a.rememberMe.loginSuccess ctx' p) s' ctx₂ s₂ →
        Yields (a.run ctx username password) s (ctx₂, .ok p) s₂ := by
  rw [run] at h
  cases hparse : Credential.parse username password with
  | error e =>
    rw [hparse] at h
    obtain ⟨told, s₁, -, h⟩ := h.of_bind
    cases (h.eq (.pure _ _)).1
  | ok credential =>
    rw [hparse] at h
    obtain ⟨verdict, s₁, hverify, h⟩ := h.of_bind
    cases verdict with
    | error e =>
      obtain ⟨told, s₂, -, h⟩ := h.of_bind
      cases (h.eq (.pure _ _)).1
    | ok identity =>
      obtain ⟨⟨ctx₁, r⟩, s₂, hbind, h⟩ := h.of_bind
      cases r with
      | error e =>
        -- A login that was begun ends with the failure.
        obtain ⟨unbound, s₃, -, h⟩ := h.of_bind
        obtain ⟨told, s₄, -, h⟩ := h.of_bind
        cases (h.eq (.pure _ _)).1
      | ok u =>
        obtain ⟨told, s₃, htold, h⟩ := h.of_bind
        obtain ⟨rfl, rfl⟩ := htold.eq (.pure _ _)
        obtain ⟨hstep, rfl⟩ := h.eq (.pure _ _)
        obtain ⟨rfl, hp⟩ := Prod.mk.inj hstep
        cases hp
        refine ⟨s₁, hbind, ?_⟩
        intro ctx₂ s₂ hsuccess
        rw [run, hparse]
        exact hverify.bind (hbind.bind (hsuccess.bind (.pure _ _)))

namespace RememberMeConfig

/-- A login is not touched by a token that cannot be issued for it. -/
theorem login_without_token {rc : RememberMeConfig} {c : LoginCommand (StateT σ (Except ε))}
    {seq : LogoutSequence (StateT σ (Except ε))} {clock : StateT σ (Except ε) Timestamp}
    (hstarted : c.started = some seq) (hrm : c.config.rememberMe = rc.service clock)
    {username password : String} {p : Principal} {now : Timestamp} {s'' : σ} {e : IssueError}
    (hlogin : Yields (c.forgetful.login ctx username password) s (ctx', .ok p) s')
    (hclock : Yields clock s' now s'') (he : Token.issue rc.secret rc.ttl now p = .error e) :
    Yields (c.login ctx username password) s (ctx', .ok p) s'' ∧
      (c.config.strategy.Spares rc.cookieName →
        ctx'.queued rc.cookieName = ctx.queued rc.cookieName) := by
  have hforgetful : c.forgetful.started = some seq := hstarted
  simp only [LoginCommand.login, hforgetful] at hlogin
  obtain ⟨⟨ctx₁, r⟩, s₁, hrun, hrest⟩ := hlogin.of_bind
  obtain ⟨hstep, rfl⟩ := hrest.eq (.pure _ _)
  obtain ⟨rfl, hr⟩ := Prod.mk.inj hstep
  cases r with
  | error f => cases hr
  | ok q =>
    cases hr
    obtain ⟨s₂, hbind, hsuccess⟩ :=
      Authentication.of_run_forgetful (a := c.authentication seq) hrun
    -- Remember-me asks the clock, fails to issue a token, and leaves the request as it is.
    have htold : Yields (c.config.rememberMe.loginSuccess ctx' p) s' ctx' s'' := by
      have hleft : rc.loginSuccess now ctx' p = ctx' := by
        rw [loginSuccess, he]
      rw [hrm]
      refine hclock.bind ?_
      rw [hleft]
      exact .pure _ _
    refine ⟨?_, fun hspares => Authentication.queued_eq_of_bind hspares hbind⟩
    simp only [LoginCommand.login, hstarted]
    exact (hsuccess ctx' s'' htold).bind (.pure _ _)

/-- A token can be issued exactly if the time to live is a duration, the moment of expiry is in the
calendar and its second is not before the epoch. It then expires at that very second, as the token
says itself; otherwise there is an unexpected error. A login that succeeds without remember-me
succeeds as well where no token can be issued for it, with the same principal and the same request;
if the strategy spares the cookie, so does the login. -/
theorem expiry_exact (rc : RememberMeConfig) :
    (∀ now p,
      ((∃ token, Token.issue rc.secret rc.ttl now p = .ok token) ↔
        Token.IsDuration rc.ttl ∧ (now.addSeconds rc.ttl).InCalendar ∧ 0 ≤ now.seconds + rc.ttl) ∧
      (∀ token, Token.issue rc.secret rc.ttl now p = .ok token → ∃ exp : Nat,
        (exp : Int) = now.seconds + rc.ttl ∧ exp < signedLimit64 ∧
          token = Token.sign rc.secret ⟨p.name, p.authorities.toList, exp⟩ ∧
          ∀ later : Timestamp, later.seconds ≤ exp →
            Token.verify rc.secret later token = .ok ⟨p.name, p.authorities.toList, exp⟩) ∧
      ∀ e, Token.issue rc.secret rc.ttl now p = .error e →
        Token.Hindered now rc.ttl e ∧ ∃ text, e.message = "Unexpected error: " ++ text) ∧
    ∀ {c : LoginCommand (StateT σ (Except ε))} {seq clock}, c.started = some seq →
      c.config.rememberMe = rc.service clock → ∀ {ctx username password s ctx' p s' now s'' e},
        Yields (c.forgetful.login ctx username password) s (ctx', .ok p) s' →
        Yields clock s' now s'' → Token.issue rc.secret rc.ttl now p = .error e →
          Yields (c.login ctx username password) s (ctx', .ok p) s'' ∧
            (c.config.strategy.Spares rc.cookieName →
              ctx'.queued rc.cookieName = ctx.queued rc.cookieName) := by
  refine ⟨?_, ?_⟩
  · intro now p
    refine ⟨?_, ?_, ?_⟩
    · constructor
      · rintro ⟨token, htoken⟩
        obtain ⟨second, hsecond, -⟩ := Token.issue_eq_ok_iff.1 htoken
        obtain ⟨hduration, hdate, hexact⟩ := Token.expiry_eq_ok_iff.1 hsecond
        exact ⟨hduration, hdate, by omega⟩
      · rintro ⟨hduration, hdate, hepoch⟩
        have hsecond : Token.expiry now rc.ttl = .ok (now.seconds + rc.ttl).toNat :=
          Token.expiry_eq_ok_iff.2 ⟨hduration, hdate, by omega⟩
        exact ⟨_, Token.issue_eq rc.secret p hsecond⟩
    · intro token htoken
      obtain ⟨second, hsecond, rfl⟩ := Token.issue_eq_ok_iff.1 htoken
      obtain ⟨-, hdate, hexact⟩ := Token.expiry_eq_ok_iff.1 hsecond
      refine ⟨second, hexact, Token.lt_of_inCalendar hdate hexact, rfl, ?_⟩
      intro later hlater
      rw [Token.verify_issued rc.secret p hsecond later, if_pos (by rw [Token.leeway]; omega)]
      rfl
    · intro e he
      exact ⟨Token.hindered_of_expiry (Token.expiry_of_issue_error he), e.detail, rfl⟩
  · intro c seq clock hstarted hrm ctx username password s ctx' p s' now s'' e hlogin hclock he
    exact login_without_token hstarted hrm hlogin hclock he

/-- A command that trusts everybody and would remember logins for longer than there is time. -/
def endless : LoginCommand (StateT Unit (Except Empty)) where
  config :=
    { verifier := ⟨fun credential => return .ok ⟨credential.username.text, .empty⟩⟩
      store := none
      strategy := .null
      rememberMe := service ⟨"remember-me", "secret", 9223372036854775807⟩ (return ⟨1500000000⟩)
      handlers := some []
      mode := .perClient
      invalidateSession := true }
  started := some ⟨[], .perClient⟩

/-- Alice is logged in without a token; at the same moment, a second and a half after the epoch,
she could have one for ten minutes. -/
theorem expiry_exact_endless :
    Token.issue "secret" 9223372036854775807 ⟨1500000000⟩ ⟨"alice", .empty⟩ =
        .error .noDuration ∧
      Yields (endless.login {} "alice" "1234") () ({ principal := some ⟨"alice", .empty⟩ },
        .ok ⟨"alice", .empty⟩) () ∧
      RequestContext.queued { principal := some ⟨"alice", .empty⟩ } "remember-me" = [] ∧
      ∃ token, Token.issue "secret" 600 ⟨1500000000⟩ ⟨"alice", .empty⟩ = .ok token := by
  have he : Token.issue "secret" 9223372036854775807 ⟨1500000000⟩ ⟨"alice", .empty⟩ =
      .error .noDuration := by
    rw [Token.issue]
    have hlong : Token.expiry ⟨1500000000⟩ 9223372036854775807 = .error .noDuration := by decide
    rw [hlong]
    rfl
  have hlogin : Yields (endless.forgetful.login {} "alice" "1234") ()
      ({ principal := some ⟨"alice", .empty⟩ }, .ok ⟨"alice", .empty⟩) () := by
    rfl
  obtain ⟨-, hleft⟩ := expiry_exact (σ := Unit) (ε := Empty)
    ⟨"remember-me", "secret", 9223372036854775807⟩
  obtain ⟨hyields, hqueued⟩ := hleft (c := endless) rfl rfl hlogin (.pure _ _) he
  refine ⟨he, hyields, hqueued (SessionStrategy.spares_null _), ?_⟩
  obtain ⟨hissues, -⟩ := expiry_exact (σ := Unit) (ε := Empty) ⟨"remember-me", "secret", 600⟩
  refine (hissues ⟨1500000000⟩ ⟨"alice", .empty⟩).1.2 ⟨?_, ?_, by decide⟩
  · rw [Token.IsDuration]
    decide
  · rw [Timestamp.InCalendar]
    decide

end RememberMeConfig

end WebLogin
